import Chronicle.Proofs.Reconstruction.Divided

/-!
# Reconstruction of positions

A demon without a position has the sentinel as its position, and a recorded sentinel does not count.
So a reconstruction at a moment gives the position that the demon then had, or the next that it took
if it then had none; and since the positions that a demon takes differ from one to the next, at most
one recorded value is passed over.

## Main statements

* `Ledger.destutter_states` — the values that an attribute takes over a run are those that the
  writes of the entity left.
* `headD_filter_of_isChain` — at most one value is passed over.
* `reconstructAt_position` — what the row of a demon holds.
-/

namespace Chronicle

open Service

/-! ## The values of an attribute over a run -/

/-- Values that start alike take the same values one after the other if their rests do. -/
theorem destutter_cons_congr {v w : Value} {vs us : List Value} (hv : v.IsPlain) (hw : w.IsPlain)
    (h : (w :: vs).destutter Value.Differs = (w :: us).destutter Value.Differs) :
    (v :: w :: vs).destutter Value.Differs = (v :: w :: us).destutter Value.Differs := by
  rw [List.destutter_cons_cons, List.destutter_cons_cons]
  split
  · exact congrArg (v :: ·) h
  · rename_i hsame
    have heq : v = w := not_not.1 (mt (Value.differs_iff_ne hv hw).2 hsame)
    subst heq
    exact h

/-- A repeated value is not taken again. -/
theorem destutter_cons_self {v : Value} (hv : v.IsPlain) (vs : List Value) :
    (v :: v :: vs).destutter Value.Differs = (v :: vs).destutter Value.Differs := by
  have hsame : ¬ v.Differs v := fun hne => (Value.differs_iff_ne hv hv).1 hne rfl
  rw [List.destutter_cons_cons, if_neg hsame]
  rfl

/-- The values that an attribute of an entity takes over a list of calls are, repetitions apart,
those that the writes of the entity left. -/
theorem Ledger.destutter_states {ws : List Write} {s : Store} (h : Ledger ws s) {kind : Kind}
    {id : Int} (name : String) {e : Entity} (he : s.find? kind id = some e) (calls : List Call) :
    ∃ vs : List Value,
      (s.states calls).map (fun t => (t.find? kind id).map (·.value name)) =
        (e.value name :: vs).map some ∧
      (∀ v ∈ e.value name :: vs, ∃ a : Attributes, kind.Normal a ∧ a.get name = v) ∧
      (e.value name :: vs).destutter Value.Differs =
        (e.value name :: (life (s.writes calls) kind id).map (·.entity.value name)).destutter
          Value.Differs := by
  induction calls generalizing ws s e with
  | nil =>
    refine ⟨[], by simp [Store.states, he], fun v hv => ?_, rfl⟩
    obtain rfl := List.mem_singleton.1 hv
    exact ⟨e.attributes, h.normal he, rfl⟩
  | cons c rest ih =>
    have hstep := h.step c
    have hnext : (c.step s).find? kind id =
        finalOf (some e) (life (c.write? s).toList kind id) := by
      rw [hstep.live, life_append, finalOf_append, ← h.live, he]
    obtain ⟨f, hf⟩ := exists_finalOf e (life (c.write? s).toList kind id)
    obtain ⟨vs, hvs, hnormal, hdestutter⟩ := ih hstep (hnext.trans hf)
    have heplain : (e.value name).IsPlain := (h.normal he).get_isPlain name
    have hfplain : (f.value name).IsPlain := (hstep.normal (hnext.trans hf)).get_isPlain name
    refine ⟨f.value name :: vs, ?_, fun v hv => ?_, ?_⟩
    · rw [Store.states, List.map_cons, hvs, he]
      rfl
    · rcases List.mem_cons.1 hv with rfl | hv
      · exact ⟨e.attributes, h.normal he, rfl⟩
      · exact hnormal v hv
    · rw [destutter_cons_congr heplain hfplain hdestutter, Store.writes, life_append,
        List.map_append]
      -- A call that is no write of the entity repeats the value.
      cases hc : c.write? s with
      | none =>
        rw [hc] at hf
        cases hf
        exact destutter_cons_self heplain _
      | some w =>
        rw [hc, Option.toList_some, life_singleton] at hf
        rw [Option.toList_some, life_singleton]
        by_cases hconcerns : kind = w.entity.kind ∧ id = w.entity.id
        · rw [if_pos hconcerns] at hf ⊢
          cases hf
          rfl
        · rw [if_neg hconcerns] at hf ⊢
          cases hf
          exact destutter_cons_self heplain _

/-! ## Passing over a sentinel -/

/-- In a list of which neighbours differ, the first element before the last that is not `u`, or
else the last, is the first or the second. -/
theorem headD_filter_of_isChain {qs : List Int} {x v u : Int} {vs : List Int}
    (hlist : v :: vs = qs ++ [x]) (hchain : (v :: vs).IsChain (· ≠ ·)) :
    (qs.filter fun q => decide (q ≠ u)).headD x = if v ≠ u then v else vs.headD u := by
  cases qs with
  | nil =>
    cases hlist
    by_cases hu : x = u
    · simp [hu]
    · simp [hu]
  | cons q rest =>
    cases hlist
    by_cases hu : v = u
    · subst hu
      cases rest with
      | nil => simp
      | cons r rest =>
        -- The next value differs from the one that is passed over.
        have hr : r ≠ v := (List.isChain_cons_cons.1 hchain).1.symm
        simp [hr]
    · simp [hu]

theorem eq_nil_of_isChain {v u : Int} {vs : List Int} (hchain : (v :: vs).IsChain (· ≠ ·))
    (h : (if v ≠ u then v else vs.headD u) = u) : v = u ∧ vs = [] := by
  by_cases hv : v = u
  · subst hv
    cases vs with
    | nil => exact ⟨rfl, rfl⟩
    | cons w rest =>
      have hw : v ≠ w := (List.isChain_cons_cons.1 hchain).1
      have heq : w = v := by simpa using h
      exact absurd heq.symm hw
  · rw [if_pos hv] at h
    exact absurd h hv

/-! ## The row of a demon -/

theorem exists_position {a : Attributes} (h : Kind.demon.Normal a) :
    ∃ n, a.get "position" = .int n := by
  have htype : Kind.demon.typeOf? "position" = some (.position unrankedPosition) := rfl
  obtain ⟨v, hv, n, rfl, -⟩ := h.get_normal htype
  exact ⟨n, by rw [Attributes.get, hv]; rfl⟩

theorem exists_ints {vs : List Value} (h : ∀ v ∈ vs, ∃ n, v = .int n) :
    ∃ ns : List Int, vs = ns.map Value.int := by
  induction vs with
  | nil => exact ⟨[], rfl⟩
  | cons v rest ih =>
    obtain ⟨n, rfl⟩ := h v List.mem_cons_self
    obtain ⟨ns, rfl⟩ := ih fun w hw => h w (List.mem_cons_of_mem _ hw)
    exact ⟨n :: ns, rfl⟩

theorem differs_int (m n : Int) : (Value.int m).Differs (.int n) ↔ m ≠ n := by
  have hiff := Value.differs_iff_ne (v := .int m) (w := .int n) trivial trivial
  rw [hiff, Ne, Value.int.injEq]

/-- A recorded position counts if and only if it is one. -/
theorem usable_position (n : Int) :
    Value.usable (Kind.demon.sentinel? "position") (.int n) = decide (n ≠ unrankedPosition) := by
  have hsentinel : Kind.demon.sentinel? "position" = some (.int unrankedPosition) := rfl
  rw [hsentinel, Value.usable, Bool.eq_iff_iff, Bool.not_eq_true', decide_eq_true_iff]
  exact differs_int n unrankedPosition

/-- The different positions that a demon takes over a list of calls, one after the other. -/
theorem Ledger.positions {ws : List Write} {s : Store} (h : Ledger ws s) {id : Int} {d : Entity}
    (hd : s.find? .demon id = some d) (calls : List Call) :
    ∃ (ps : List Int) (v₀ : Int) (vs : List Int),
      (s.states calls).map (fun t => (t.find? .demon id).map (·.value "position")) =
        ps.map (fun p => some (.int p)) ∧
      d.value "position" = .int v₀ ∧ ps.destutter (· ≠ ·) = v₀ :: vs ∧
      (v₀ :: vs).map Value.int =
        (d.value "position" :: (life (s.writes calls) .demon id).map
          (·.entity.value "position")).destutter Value.Differs := by
  obtain ⟨us, hstates, hnormal, hdestutter⟩ := h.destutter_states "position" hd calls
  obtain ⟨ps, hps⟩ : ∃ ps : List Int, d.value "position" :: us = ps.map Value.int := by
    refine exists_ints fun v hv => ?_
    obtain ⟨a, ha, rfl⟩ := hnormal v hv
    exact exists_position ha
  have hmap : (ps.destutter (· ≠ ·)).map Value.int =
      (d.value "position" :: us).destutter Value.Differs := by
    rw [hps]
    exact List.map_destutter fun m _ n _ => (differs_int m n).symm
  obtain ⟨rest, hrest⟩ := exists_destutter_eq_cons (d.value "position") us
  obtain ⟨v₀, vs, hpositions, hv₀, -⟩ := List.map_eq_cons_iff.1 (hmap.trans hrest)
  refine ⟨ps, v₀, vs, ?_, hv₀.symm, hpositions, ?_⟩
  · rw [hstates, hps, List.map_map]
    rfl
  · rw [← hpositions, hmap, hdestutter]

/-- The historical position of a demon, given the different positions that it took from the moment
on. -/
theorem Divided.historical_position {moment : Moment} {past present : Store} {ws late : List Write}
    {e : Entity} (h : Divided moment past present ws late) {v₀ : Int} {vs : List Int}
    (hpositions : (v₀ :: vs).map Value.int =
      recorded "position" (life late .demon e.id) ++ [e.value "position"])
    (hchain : (v₀ :: vs).IsChain (· ≠ ·)) :
    (rowFor (present.changesSince .demon moment "position") "position" e).historical =
      .int (if v₀ ≠ unrankedPosition then v₀ else vs.headD unrankedPosition) := by
  obtain ⟨qs, xs, hlist, hqs, hxs⟩ := List.map_eq_append_iff.1 hpositions
  obtain ⟨x, rfl, hx⟩ := List.map_eq_singleton_iff.1 hxs
  have hfilter : (qs.map Value.int).filter (Value.usable (Kind.demon.sentinel? "position")) =
      (qs.filter fun q => decide (q ≠ unrankedPosition)).map Value.int := by
    rw [List.filter_map]
    exact congrArg _ (List.filter_congr fun q _ => usable_position q)
  rw [h.historical_eq, ← hqs, ← hx, hfilter, List.headD_map, headD_filter_of_isChain hlist hchain]

/-- A historical position is one that an entry from the moment on recorded, or the present one. -/
theorem position_source {s : Store} {moment : Moment} {e : Entity} {n : Int}
    (hn : (rowFor (s.changesSince .demon moment "position") "position" e).historical = .int n) :
    (∃ m ∈ s.modifications.ofKind .demon, m.entityId = e.id ∧
      moment.instant ≤ m.timestamp.instant ∧ m.diffs.get? "position" = some (.int n) ∧
      Value.int n ≠ .int unrankedPosition) ∨
    Value.int n = (rowFor (s.changesSince .demon moment "position") "position" e).current := by
  rcases historical_source s .demon moment "position" e with
    ⟨m, hm, hid, hinstant, hget, husable⟩ | ⟨-, hcurrent⟩
  · rw [hn, usable_position, decide_eq_true_eq] at husable
    exact .inl ⟨m, hm, hid, hinstant, hn ▸ hget, fun heq => husable (Value.int.inj heq)⟩
  · exact .inr (hn.symm.trans hcurrent)

/-- Reconstruction of positions. In a run whose clock does not go back, let `v₀` be the position of
a demon before a moment and `vs` the different positions that it takes afterwards, one after the
other. The row of the demon in the ordering at the moment has `v₀` as its historical value, or the
next position if `v₀` is none; it has no position only if the demon has had none since. A recorded
value that is no position is the source of no historical value. -/
theorem reconstructAt_position {calls : List Call} (hclock : Chronological calls) {target : Moment}
    {t : WallTime} (ht : target.utc = .ok t) {id : Int} {d : Entity}
    (hd : (Store.empty.after (earlier target calls)).find? .demon id = some d) :
    let past := Store.empty.after (earlier target calls)
    let present := Store.empty.after calls
    ∃ (ps : List Int) (v₀ : Int) (vs : List Int) (rows : List HistoricalRow),
      (past.states (later target calls)).map
          (fun s => (s.find? .demon id).map (·.value "position")) =
        ps.map (fun p => some (.int p)) ∧
      d.value "position" = .int v₀ ∧ ps.destutter (· ≠ ·) = v₀ :: vs ∧
      (reconstructAt (.text "demon") target (some "position") present).result = .ok rows ∧
      (rows.map HistoricalRow.entityId).Nodup ∧ id ∈ rows.map HistoricalRow.entityId ∧
      ∀ row ∈ rows, row.entityId = id →
        row.historical = .int (if v₀ ≠ unrankedPosition then v₀ else vs.headD unrankedPosition) ∧
        (row.historical = .int unrankedPosition → v₀ = unrankedPosition ∧ vs = []) ∧
        ((∃ m ∈ present.modifications.ofKind .demon, m.entityId = id ∧
            target.instant ≤ m.timestamp.instant ∧
            m.diffs.get? "position" = some row.historical ∧
            row.historical ≠ .int unrankedPosition) ∨
          row.historical = row.current) := by
  intro past present
  have hname : "position" ∈ Kind.demon.tracked := by decide
  have h := (hclock.divided target).naive ht
  obtain ⟨rows, hrows, hids, hsource, -⟩ := h.reconstructAt_ok hname ht
  obtain ⟨ps, v₀, vs, hstates, hv₀, hdestutter, hpositions⟩ :=
    h.past.positions hd (later target calls)
  have hchain : (v₀ :: vs).IsChain (· ≠ ·) := hdestutter ▸ List.isChain_destutter _ ps
  refine ⟨ps, v₀, vs, rows, hstates, hv₀, hdestutter, hrows,
    hids.nodup_iff.2 (EntityTable.ids_nodup _), ?_, fun row hrow hid => ?_⟩
  · exact hids.mem_iff.2 (EntityTable.mem_ids_iff.2 ⟨d, hd⟩)
  · obtain ⟨e₀, e, hpast, hpresent, rfl⟩ := hsource row hrow
    obtain rfl : e.id = id := hid
    obtain rfl : d = e₀ := Option.some.inj (hd.symm.trans hpast)
    have hhistorical :=
      h.historical_position (hpositions.trans (h.values_eq hpast hpresent hname)) hchain
    refine ⟨hhistorical, fun hunranked => ?_, ?_⟩
    · exact eq_nil_of_isChain hchain (Value.int.inj (hhistorical.symm.trans hunranked))
    · rw [← Moment.instant_of_utc ht, hhistorical]
      exact position_source hhistorical

/-- The number that a value is, else zero. -/
def numberOf : Option Value → Int
  | some (.int n) => n
  | _ => 0

/-- A demon off the list at the moment has the position that it comes back to. -/
theorem reconstructAt_position_sampleRun :
    let target := Moment.naive ⟨25, by decide⟩
    let present := Store.empty.after sampleRun
    Chronological sampleRun ∧ target.utc = .ok ⟨25, by decide⟩ ∧
      ((Store.empty.after (earlier target sampleRun)).find? .demon 1).isSome = true ∧
      ∃ rows,
        (reconstructAt (.text "demon") target (some "position") present).result = .ok rows ∧
        1 ∈ rows.map HistoricalRow.entityId ∧
        ∀ row ∈ rows, row.entityId = 1 → row.historical = .int 5 := by
  intro target present
  have hclock : Chronological sampleRun := by decide
  have hsome : ((Store.empty.after (earlier target sampleRun)).find? .demon 1).isSome = true := by
    decide +kernel
  obtain ⟨d, hd⟩ := Option.isSome_iff_exists.1 hsome
  have htarget : target.utc = .ok ⟨25, by decide⟩ := rfl
  obtain ⟨ps, v₀, vs, rows, hstates, -, hdestutter, hrows, -, hid, hrow⟩ :=
    reconstructAt_position hclock htarget hd
  have hreading : (((Store.empty.after (earlier target sampleRun)).states
      (later target sampleRun)).map (fun s => (s.find? .demon 1).map (·.value "position"))).map
        numberOf = [-1, 5] := by
    decide +kernel
  rw [hstates, List.map_map] at hreading
  obtain rfl : ps = [-1, 5] := (List.map_id'' (fun _ => rfl) ps).symm.trans hreading
  obtain ⟨rfl, rfl⟩ : -1 = v₀ ∧ [5] = vs := List.cons.inj hdestutter
  exact ⟨hclock, htarget, hsome, rows, hrows, hid, fun row hmem heq => (hrow row hmem heq).1⟩

end Chronicle
