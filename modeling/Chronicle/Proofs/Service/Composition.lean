import Chronicle.Proofs.Schema.Overwriting
import Chronicle.Proofs.Service.Ledger
import Chronicle.Proofs.Storage.Change

/-!
# Updates compose

An update changes only the attributes that it names. Two updates of an entity, one after the other,
leave it as one update with the changes of both would have, and what that one records is what the
two record together, less what they brought back.

## Main definitions

* `Operation.Alters` — what an update that succeeds does.

## Main statements

* `Service.alters_of_ok`, `Service.alters_of_valid` — which updates succeed, and what they do.
* `updates_compose` — two updates as one.
-/

namespace Chronicle

open Service

/-- What an update that succeeds does: it finds an entity and returns it with other attributes at
most, and it leaves the store with this in the place of that and with one more modification, whose
differences are given. -/
structure Operation.Alters (update : Operation Store Entity) (s : Store) (before after : Entity)
    (diffs : Attributes) : Prop where
  result : (update s).result = .ok after
  found : s.find? before.kind before.id = some before
  same : after = { before with attributes := after.attributes }
  stored : (update s).state.find? before.kind before.id = some after
  changes : ∃ entry, entry.entityId = before.id ∧ entry.diffs = diffs ∧
    s.Changes (update s).state before after entry

namespace Service

variable {s : Store} {kindValue : Value} {id : Int} {changes attributes : Attributes}
  {actor? : Option Actor} {clock : Moment} {before after : Entity}

/-- An update that succeeds leads to valid attributes, -/
theorem alters_of_ok (hs : s.Sound)
    (h : (update kindValue id changes actor? clock s).result = .ok after) :
    ∃ before, Kind.ofValue kindValue = .ok before.kind ∧ before.id = id ∧
      before.kind.validate (before.attributes.merge changes).toValue = .ok after.attributes ∧
      (update kindValue id changes actor? clock).Alters s before after
        (before.attributes.diff after.attributes before.kind.tracked) := by
  rcases update_cases hs kindValue id changes actor? clock with
    ⟨before, attributes, actor, now, hkind, rfl, hbefore, hvalid, rfl, hnow, hresult, hstate⟩ |
    ⟨e, -, hresult, -⟩
  · cases hresult.symm.trans h
    refine ⟨before, hkind, rfl, hvalid, hresult, hbefore, rfl, ?_, ?_⟩
    · rw [hstate, Store.find?_withUpdated, if_pos ⟨rfl, rfl⟩]
    · rw [hstate]
      exact ⟨_, rfl, rfl, Store.changes_withUpdated rfl rfl rfl hbefore⟩
  · cases hresult.symm.trans h

/-- from those of the entity that it found, -/
theorem alters_of_found {kind : Kind} (hs : s.Sound) (hkind : Kind.ofValue kindValue = .ok kind)
    (hbefore : s.find? kind id = some before)
    (h : (update kindValue id changes actor? clock s).result = .ok after) :
    kind.validate (before.attributes.merge changes).toValue = .ok after.attributes ∧
      (update kindValue id changes actor? clock).Alters s before after
        (before.attributes.diff after.attributes kind.tracked) := by
  obtain ⟨found, hkind', rfl, hvalid, halters⟩ := alters_of_ok hs h
  obtain rfl : found.kind = kind := Except.ok.inj (hkind'.symm.trans hkind)
  obtain rfl : found = before := Option.some.inj (halters.found.symm.trans hbefore)
  exact ⟨hvalid, halters⟩

/-- and any update that does succeeds, if it is attributed and its moment is of the calendar. -/
theorem alters_of_valid (hs : s.Sound) (hkind : Kind.ofValue kindValue = .ok before.kind)
    (hbefore : s.find? before.kind before.id = some before)
    (hvalid : before.kind.validate (before.attributes.merge changes).toValue = .ok attributes)
    (actor : Actor) {now : WallTime} (hnow : clock.utc = .ok now) :
    (update kindValue before.id changes (some actor) clock).Alters s before
      { before with attributes } (before.attributes.diff attributes before.kind.tracked) := by
  have hresult := update_result hs kindValue before.id changes (some actor) clock
  rw [updatedEntity_of_valid actor hkind hbefore hvalid hnow] at hresult
  exact (alters_of_found hs hkind hbefore hresult).2

end Service

/-- Updates touch only what they name, and they compose. After any calls, let an update succeed. It
keeps every attribute that it does not name, and what it records are attributes that it names. If
another update of the entity succeeds after it, then so does, instead of both, one update with the
changes of the first and after them those of the second, whoever asks for it and at any moment of
the calendar. It leaves the entity as the two do, and it records what both do, the first's values
counting, less the attributes that have come back to their values. -/
theorem updates_compose (calls : List Call) {kind : Value} {id : Int} {c : Attributes}
    {actor₁ : Option Actor} {clock₁ : Moment} {e₁ : Entity}
    (h : (update kind id c actor₁ clock₁ (Store.empty.after calls)).result = .ok e₁) :
    let s := Store.empty.after calls
    let t := (update kind id c actor₁ clock₁ s).state
    ∃ e₀ d₁, Kind.ofValue kind = .ok e₀.kind ∧ e₀.id = id ∧
      (update kind id c actor₁ clock₁).Alters s e₀ e₁ d₁ ∧
      (∀ name ∉ c.names, e₁.attributes.get? name = e₀.attributes.get? name) ∧
      (∀ name ∈ d₁.names, name ∈ c.names) ∧
      ∀ d actor₂ clock₂ e₂, (update kind id d actor₂ clock₂ t).result = .ok e₂ →
        ∃ d₂, (update kind id d actor₂ clock₂).Alters t e₁ e₂ d₂ ∧
          ∀ actor clock now, clock.utc = .ok now →
            ∃ d₃, (update kind id (c.followedBy d) (some actor) clock).Alters s e₀ e₂ d₃ ∧
              ∀ name, d₃.get? name =
                if (e₀.value name).same (e₂.value name) then none else (d₂.merge d₁).get? name := by
  intro s t
  have hs := ledger_of_run calls
  have ht : t.Sound := by
    have hstep := (hs.step ⟨.update kind id c actor₁, clock₁⟩).sound
    rwa [Call.step, Call.perform, Operation.map_state] at hstep
  obtain ⟨e₀, hkind, rfl, hvalid₁, h₁⟩ := alters_of_ok hs.sound h
  have hnormal₀ : e₀.kind.Normal e₀.attributes := hs.normal h₁.found
  have hnormal₁ : e₀.kind.Normal e₁.attributes := Kind.normal_of_validate hvalid₁
  refine ⟨e₀, _, hkind, rfl, h₁, fun name => Kind.get?_of_unchanged hnormal₀ hvalid₁,
    fun name => Kind.mem_names_of_diff hnormal₀ hvalid₁, fun d actor₂ clock₂ e₂ h' => ?_⟩
  -- The second update finds what the first one left.
  obtain ⟨hvalid₂, h₂⟩ := alters_of_found ht hkind h₁.stored h'
  have hlast : e₂ = { e₀ with attributes := e₂.attributes } := by rw [h₂.same, h₁.same]
  refine ⟨_, h₂, fun actor clock now hnow => ?_⟩
  have hvalid₃ := Kind.validate_followedBy hnormal₀ hvalid₁ hvalid₂
  have h₃ := alters_of_valid hs.sound hkind h₁.found hvalid₃ actor hnow
  rw [← hlast] at h₃
  refine ⟨_, h₃, fun name => ?_⟩
  exact Attributes.get?_diff_trans (hnormal₀.get_isPlain name) (hnormal₁.get_isPlain name) _ _

/-- A demon leaves the list with another requirement and comes back to where it was. One update that
does both does not record the position. -/
theorem updates_compose_sampleReturn :
    let s := Store.empty.after (sampleRun.take 1)
    let actor : Actor := ⟨7, none⟩
    let clock := Moment.naive ⟨20, by decide⟩
    let c : Attributes := ⟨[("position", .int (-1)), ("requirement", .int 60)]⟩
    let d : Attributes := ⟨[("position", .int 3)]⟩
    let t := (update (.text "demon") 1 c (some actor) clock s).state
    ∃ e₀ e₁ e₂ d₃,
      (update (.text "demon") 1 c (some actor) clock s).result = .ok e₁ ∧
      (update (.text "demon") 1 d (some actor) clock t).result = .ok e₂ ∧
      (update (.text "demon") 1 (c.followedBy d) (some actor) clock).Alters s e₀ e₂ d₃ ∧
      d₃.get? "position" = none := by
  intro s actor clock c d t
  have hleave :
      (update (.text "demon") 1 c (some actor) clock s).result.toOption.isSome = true := by
    decide +kernel
  have hback : ((s.find? .demon 1).bind fun before =>
      (update (.text "demon") 1 d (some actor) clock t).result.toOption.map fun after =>
        (before.value "position").same (after.value "position")) = some true := by
    decide +kernel
  obtain ⟨e₁, h₁⟩ := Option.isSome_iff_exists.1 hleave
  obtain ⟨e₀, hfound, hafter⟩ := Option.bind_eq_some_iff.1 hback
  obtain ⟨e₂, h₂, hsame⟩ := Option.map_eq_some_iff.1 hafter
  rw [toOption_eq_some_iff] at h₁ h₂
  obtain ⟨before, d₁, hkind, hid, -, -, -, hsecond⟩ := updates_compose (sampleRun.take 1) h₁
  obtain ⟨d₂, -, hboth⟩ := hsecond d (some actor) clock e₂ h₂
  obtain ⟨d₃, h₃, hdiff⟩ := hboth actor clock ⟨20, by decide⟩ rfl
  have hstart := h₃.found
  rw [← (Except.ok.inj hkind : .demon = before.kind), hid, hfound] at hstart
  obtain rfl := Option.some.inj hstart
  exact ⟨e₀, e₁, e₂, d₃, h₁, h₂, h₃, (hdiff "position").trans (if_pos hsame)⟩

end Chronicle
