import ScriptComposer.Proofs.Program.Change

/-!
# ScriptComposer.Proofs.Program.Fresh

Ids are fresh for a whole history.

The next number is kept above the number of every id in the list, also of those
that only read as generated ones.  It never falls, so it stays above the numbers
of ids that were removed long ago, and the id made from it is new.

* `issued_fresh` — the ids that a history gives out are new, go upwards, and can be
  taken back.
-/

namespace ScriptComposer

/-- An element like no other is found where it was put. -/
theorem findIdx?_insertIdx {α : Type} {chosen : α → Bool} {x : α} {l : List α} {i : Nat}
    (hi : i ≤ l.length) (hx : chosen x = true) (hl : ∀ y ∈ l, chosen y = false) :
    (l.insertIdx i x).findIdx? chosen = some i := by
  rw [List.findIdx?_eq_some_iff_getElem]
  refine ⟨?_, ?_, fun j hj => ?_⟩
  · rw [List.length_insertIdx_of_le_length hi]
    exact Nat.lt_succ_of_le hi
  · rwa [List.getElem_insertIdx_self]
  · rw [List.getElem_insertIdx_of_lt hj, hl _ (List.getElem_mem _)]
    exact Bool.false_ne_true

namespace Program

/-- The ids of the statements, in order. -/
def ids (p : Program) : List StatementId := p.statements.map (·.id)

/-- The next number is larger than that of every id. -/
def IsAhead (p : Program) : Prop :=
  ∀ id ∈ p.ids, ∀ n, id.number? = some n → n < p.nextNumber

/-- The ids that a history of edits gives out, in order. -/
def issued (p : Program) : List Edit → List StatementId
  | [] => []
  | e :: edits => (e.apply p).2.issued?.toList ++ issued (e.apply p).1 edits

/-! ## one state -/

theorem position?_eq_findIdx?_ids (p : Program) (id : StatementId) :
    p.position? id = p.ids.findIdx? (· = id) := by
  rw [ids, List.findIdx?_map]
  rfl

/-- The number after a list is larger than any that its ids carry. -/
theorem lt_numberAfter {ss : List Statement} {s : Statement} (hs : s ∈ ss) {n : Nat}
    (hn : s.id.number? = some n) : n < numberAfter ss := by
  have hmem : n ∈ ss.filterMap (·.id.number?) := List.mem_filterMap.2 ⟨s, hs, hn⟩
  rw [numberAfter]
  generalize ss.filterMap (·.id.number?) = ns at hmem
  induction ns with
  | nil => simp at hmem
  | cons m ns ih =>
      rw [List.foldr_cons]
      rcases List.mem_cons.1 hmem with rfl | hmem
      · omega
      · have := ih hmem
        omega

/-- A program that is loaded counts on from its ids. -/
theorem isAhead_ofStatements (ss : List Statement) : (ofStatements ss).IsAhead := by
  intro id hid n hn
  obtain ⟨s, hs, rfl⟩ := List.mem_map.1 hid
  exact lt_numberAfter hs hn

theorem le_firstUnused (ids : List StatementId) (tries n : Nat) : n ≤ firstUnused ids tries n := by
  induction tries generalizing n with
  | zero => exact Nat.le_refl n
  | succ tries ih =>
      rw [firstUnused]
      split
      · have := ih (n + 1)
        omega
      · exact Nat.le_refl n

theorem nextNumber_le_freshNumber (p : Program) : p.nextNumber ≤ p.freshNumber :=
  le_firstUnused _ _ _

/-- The id made from a number that is ahead of every id is new. -/
theorem IsAhead.ofNumber_not_mem {p : Program} (h : p.IsAhead) {n : Nat} (hn : p.nextNumber ≤ n)
    (hlimit : n < Text.wordLimit) : StatementId.ofNumber n ∉ p.ids := by
  intro hmem
  have := h _ hmem n (StatementId.number?_ofNumber hlimit)
  omega

/-- A program that is ahead of its ids need not skip a number. -/
theorem IsAhead.freshNumber_eq {p : Program} (h : p.IsAhead)
    (hlimit : p.nextNumber < Text.wordLimit) : p.freshNumber = p.nextNumber :=
  firstUnused_eq_self (h.ofNumber_not_mem (Nat.le_refl _) hlimit) _

/-! ## one change -/

theorem ids_insertNew (p : Program) (i : Nat) (body : Body) (inside : Bool) :
    (p.insertNew i (.ofBody · body inside)).1.ids =
      p.ids.insertIdx i (StatementId.ofNumber p.freshNumber) := by
  rw [ids, insertNew, List.map_insertIdx]
  rfl

/-- A patch never changes an id. -/
theorem ids_modify (ss : List Statement) (i : Nat) (patch : Patch) :
    (ss.modify i patch.apply).map (·.id) = ss.map (·.id) := by
  induction ss generalizing i with
  | nil => simp
  | cons s ss ih =>
      cases i with
      | zero => simp [Patch.apply]
      | succ i => simp [ih]

theorem ids_subperm {p : Program} {ss : List Statement} (h : ss.Subperm p.statements) :
    (p.withStatements ss).ids.Subperm p.ids := by
  obtain ⟨ss', hperm, hsub⟩ := h
  exact ⟨ss'.map (·.id), hperm.map _, hsub.map _⟩

namespace Change

variable {p p' : Program} {o : Outcome}

/-- The counter never goes back. -/
theorem nextNumber_le (h : p.Change p' o) : p.nextNumber ≤ p'.nextNumber := by
  cases h with
  | kept _ => exact Nat.le_refl _
  | inserted _ _ => exact Nat.le_succ_of_le p.nextNumber_le_freshNumber
  | patched _ _ => exact Nat.le_refl _
  | rearranged _ _ => exact Nat.le_refl _

/-- The ids afterwards are ids from before, besides the one that was given out. -/
theorem mem_ids (h : p.Change p' o) {id : StatementId} (hid : id ∈ p'.ids) :
    id ∈ p.ids ∨ o.issued? = some id := by
  cases h with
  | kept _ => exact .inl hid
  | inserted hi hb =>
      rw [ids_insertNew] at hid
      rcases List.eq_or_mem_of_mem_insertIdx hid with rfl | hid
      · exact .inr rfl
      · exact .inl hid
  | patched hi patch =>
      rw [ids, withStatements, ids_modify] at hid
      exact .inl hid
  | rearranged hs _ => exact .inl ((ids_subperm hs).subset hid)

/-- The id given out is made from the next number, which is counted up. -/
theorem issued_eq (h : p.Change p' o) (hp : p.IsAhead) (hlimit : p'.nextNumber < Text.wordLimit)
    {id : StatementId} (hid : o.issued? = some id) :
    id = .ofNumber p.nextNumber ∧ p'.nextNumber = p.nextNumber + 1 := by
  have hfresh := hp.freshNumber_eq (Nat.lt_of_le_of_lt h.nextNumber_le hlimit)
  cases h with
  | kept ho => simp [ho] at hid
  | inserted _ _ =>
      obtain rfl := Option.some.inj hid
      exact ⟨congrArg StatementId.ofNumber hfresh, congrArg (· + 1) hfresh⟩
  | patched _ _ => simp [Outcome.issued?] at hid
  | rearranged _ ho => simp [ho] at hid

/-- The next number stays ahead. -/
theorem isAhead (h : p.Change p' o) (hp : p.IsAhead) (hlimit : p'.nextNumber < Text.wordLimit) :
    p'.IsAhead := by
  intro id hid n hn
  rcases h.mem_ids hid with hid | hid
  · exact Nat.lt_of_lt_of_le (hp id hid n hn) h.nextNumber_le
  · obtain ⟨rfl, hnext⟩ := h.issued_eq hp hlimit hid
    rw [StatementId.number?_ofNumber (by omega)] at hn
    obtain rfl := Option.some.inj hn
    omega

/-- Distinct ids stay distinct if the one given out is new. -/
theorem nodup_ids (h : p.Change p' o) (hnew : ∀ id, o.issued? = some id → id ∉ p.ids)
    (hp : p.ids.Nodup) : p'.ids.Nodup := by
  cases h with
  | kept _ => exact hp
  | @inserted i _ _ hi hb =>
      have hlen : i ≤ p.ids.length := by rwa [ids, List.length_map]
      rw [ids_insertNew, (List.perm_insertIdx _ _ hlen).nodup_iff]
      exact List.nodup_cons.2 ⟨hnew _ rfl, hp⟩
  | patched hi patch =>
      rw [ids, withStatements, ids_modify]
      exact hp
  | rearranged hs _ =>
      obtain ⟨_, hperm, hsub⟩ := ids_subperm hs
      exact hperm.nodup_iff.1 (hp.sublist hsub)

/-- A new statement is found where it was put, and taking it out leaves the others. -/
theorem remove_issued (h : p.Change p' o) {id : StatementId} (hid : o.issued? = some id)
    (hnew : id ∉ p.ids) : (p'.remove id).1.statements = p.statements := by
  cases h with
  | kept ho => simp [ho] at hid
  | @inserted i body inside hi hb =>
      obtain rfl := Option.some.inj hid
      have hothers : ∀ s ∈ p.statements, decide (s.id = .ofNumber p.freshNumber) = false := by
        intro s hs
        have hmem : s.id ∈ p.ids := List.mem_map_of_mem hs
        refine decide_eq_false fun e => ?_
        rw [e] at hmem
        exact hnew hmem
      have hpos : (p.insertNew i (.ofBody · body inside)).1.position?
          (.ofNumber p.freshNumber) = some i :=
        findIdx?_insertIdx hi (decide_eq_true rfl) hothers
      have hremove : ((p.insertNew i (.ofBody · body inside)).1.remove
          (.ofNumber p.freshNumber)).1.statements =
            (p.insertNew i (.ofBody · body inside)).1.statements.eraseIdx i := by
        rw [remove, hpos]
        rfl
      exact hremove.trans (List.eraseIdx_insertIdx_self ..)
  | patched _ _ => simp [Outcome.issued?] at hid
  | rearranged _ ho => simp [ho] at hid

end Change

/-! ## histories -/

theorem nextNumber_le_after (p : Program) (edits : List Edit) :
    p.nextNumber ≤ (p.after edits).nextNumber :=
  after_induction (Nat.le_refl _) (fun _ _ _ hq h => Nat.le_trans hq h.nextNumber_le) edits

theorem nextNumber_mono (p : Program) {past edits : List Edit} (h : past <+: edits) :
    (p.after past).nextNumber ≤ (p.after edits).nextNumber := by
  obtain ⟨rest, rfl⟩ := h
  rw [after_append]
  exact nextNumber_le_after _ _

/-- As long as the numbers fit, the next number stays ahead, and distinct ids stay
distinct. -/
theorem IsAhead.after {p : Program} (hp : p.IsAhead) (edits : List Edit)
    (hlimit : (p.after edits).nextNumber < Text.wordLimit) :
    (p.after edits).IsAhead ∧ (p.ids.Nodup → (p.after edits).ids.Nodup) := by
  induction edits generalizing p with
  | nil => exact ⟨hp, id⟩
  | cons e edits ih =>
      have hchange := e.change p
      have hnext : (e.apply p).1.nextNumber < Text.wordLimit :=
        Nat.lt_of_le_of_lt (nextNumber_le_after _ edits) hlimit
      have hnew : ∀ id, (e.apply p).2.issued? = some id → id ∉ p.ids := by
        intro id hid
        obtain ⟨rfl, -⟩ := hchange.issued_eq hp hnext hid
        exact hp.ofNumber_not_mem (Nat.le_refl _) (Nat.lt_of_le_of_lt hchange.nextNumber_le hnext)
      obtain ⟨hahead, hnodup⟩ := ih (hchange.isAhead hp hnext) hlimit
      exact ⟨hahead, fun h => hnodup (hchange.nodup_ids hnew h)⟩

/-- The numbers given out start at the next number and go upwards. -/
theorem IsAhead.issued_eq {p : Program} (hp : p.IsAhead) (edits : List Edit)
    (hlimit : (p.after edits).nextNumber < Text.wordLimit) :
    ∃ ns : List Nat, p.issued edits = ns.map StatementId.ofNumber ∧ ns.Pairwise (· < ·) ∧
      ∀ n ∈ ns, p.nextNumber ≤ n ∧ n < Text.wordLimit := by
  induction edits generalizing p with
  | nil => exact ⟨[], rfl, .nil, by simp⟩
  | cons e edits ih =>
      have hchange := e.change p
      have hle := hchange.nextNumber_le
      have hnext : (e.apply p).1.nextNumber < Text.wordLimit :=
        Nat.lt_of_le_of_lt (nextNumber_le_after _ edits) hlimit
      obtain ⟨ns, hns, hpair, hbounds⟩ := ih (hchange.isAhead hp hnext) hlimit
      cases hid : (e.apply p).2.issued? with
      | none =>
          refine ⟨ns, by rw [issued, hid]; exact hns, hpair, fun n hn => ?_⟩
          obtain ⟨h, hlt⟩ := hbounds n hn
          exact ⟨Nat.le_trans hle h, hlt⟩
      | some id =>
          obtain ⟨rfl, hsucc⟩ := hchange.issued_eq hp hnext hid
          refine ⟨p.nextNumber :: ns, by rw [issued, hid, hns]; rfl, ?_, ?_⟩
          · refine .cons (fun n hn => ?_) hpair
            have := (hbounds n hn).1
            omega
          · intro n hn
            rcases List.mem_cons.1 hn with rfl | hn
            · exact ⟨Nat.le_refl _, by omega⟩
            · obtain ⟨h, hlt⟩ := hbounds n hn
              exact ⟨Nat.le_trans hle h, hlt⟩

/-- For every history of a loaded list in which the numbers do not run out: in every
state on the way the next number is ahead of every id and is taken at once, and ids
that were distinct are; an id that is given out was never in the list, and removing
the new statement at once gives back the statements from before; the numbers of the
ids given out go upwards. -/
theorem issued_fresh (ss : List Statement) (edits : List Edit)
    (hlimit : ((ofStatements ss).after edits).nextNumber < Text.wordLimit) :
    (∀ past, past <+: edits →
      (∀ id ∈ ((ofStatements ss).after past).ids, ∀ n, id.number? = some n →
        n < ((ofStatements ss).after past).nextNumber) ∧
      .ofNumber ((ofStatements ss).after past).nextNumber ∉ ((ofStatements ss).after past).ids ∧
      ((ofStatements ss).after past).freshNumber = ((ofStatements ss).after past).nextNumber ∧
      ((ss.map (·.id)).Nodup → ((ofStatements ss).after past).ids.Nodup)) ∧
    (∀ past e rest id, edits = past ++ e :: rest →
      (e.apply ((ofStatements ss).after past)).2.issued? = some id →
      (∀ earlier, earlier <+: past → id ∉ ((ofStatements ss).after earlier).ids) ∧
      ((e.apply ((ofStatements ss).after past)).1.remove id).1.statements =
        ((ofStatements ss).after past).statements) ∧
    ∃ ns : List Nat, (ofStatements ss).issued edits = ns.map StatementId.ofNumber ∧
      ((ofStatements ss).issued edits).map StatementId.number? = ns.map some ∧
      ns.Pairwise (· < ·) := by
  have hload := isAhead_ofStatements ss
  have hfits : ∀ past, past <+: edits →
      ((ofStatements ss).after past).nextNumber < Text.wordLimit := fun past hpast =>
    Nat.lt_of_le_of_lt (nextNumber_mono _ hpast) hlimit
  refine ⟨fun past hpast => ?_, fun past e rest id hedits hid => ?_, ?_⟩
  · obtain ⟨hahead, hnodup⟩ := hload.after past (hfits past hpast)
    exact ⟨hahead, hahead.ofNumber_not_mem (Nat.le_refl _) (hfits past hpast),
      hahead.freshNumber_eq (hfits past hpast), hnodup⟩
  · have hpast : past <+: edits := ⟨e :: rest, hedits.symm⟩
    have hahead := (hload.after past (hfits past hpast)).1
    have hchange := e.change ((ofStatements ss).after past)
    have hnext : (e.apply ((ofStatements ss).after past)).1.nextNumber < Text.wordLimit := by
      have := hfits (past ++ [e]) ⟨rest, by rw [hedits, List.append_assoc]; rfl⟩
      rwa [after_append] at this
    obtain ⟨rfl, -⟩ := hchange.issued_eq hahead hnext hid
    have hnever : ∀ earlier, earlier <+: past →
        .ofNumber ((ofStatements ss).after past).nextNumber ∉
          ((ofStatements ss).after earlier).ids := by
      intro earlier hearlier
      have hahead' := (hload.after earlier (hfits earlier (hearlier.trans hpast))).1
      exact hahead'.ofNumber_not_mem (nextNumber_mono _ hearlier) (hfits past hpast)
    exact ⟨hnever, hchange.remove_issued hid (hnever past List.prefix_rfl)⟩
  · obtain ⟨ns, hns, hpair, hbounds⟩ := hload.issued_eq edits hlimit
    refine ⟨ns, hns, ?_, hpair⟩
    rw [hns, List.map_map]
    exact List.map_congr_left fun n hn => StatementId.number?_ofNumber (hbounds n hn).2

/-- Ids that read as generated ones, in forms that are never generated. -/
def resumed : List Statement :=
  [.ofBody ⟨"statement-+7"⟩ (.control .blockEnd) false,
    .ofBody ⟨"statement-003"⟩ (.control .blockEnd) true]

/-- The statement with the highest number is removed before another one is added. -/
def resumedEdits : List Edit :=
  [.addControl (.blockEnd true), .remove (.ofNumber 8), .reorder 0 1, .addControl (.blockEnd false)]

/-- The number of the removed statement does not come back, and at the time removing it
undid adding it. -/
theorem issued_fresh_resumed :
    ((ofStatements resumed).after resumedEdits).nextNumber < Text.wordLimit ∧
      ((ofStatements resumed).after resumedEdits).ids.Nodup ∧
      (((Edit.addControl (.blockEnd true)).apply (ofStatements resumed)).1.remove
        (.ofNumber 8)).1.statements = resumed ∧
      (ofStatements resumed).issued resumedEdits = [.ofNumber 8, .ofNumber 9] := by
  obtain ⟨hlimit, hloaded, hid, hissued⟩ :
      ((ofStatements resumed).after resumedEdits).nextNumber < Text.wordLimit ∧
        (resumed.map (·.id)).Nodup ∧
        ((Edit.addControl (.blockEnd true)).apply (ofStatements resumed)).2.issued? =
          some (.ofNumber 8) ∧
        (ofStatements resumed).issued resumedEdits = [.ofNumber 8, .ofNumber 9] := by
    decide +kernel
  obtain ⟨hstates, hadded, -⟩ := issued_fresh resumed resumedEdits hlimit
  obtain ⟨-, -, -, hnodup⟩ := hstates resumedEdits List.prefix_rfl
  obtain ⟨-, hremove⟩ := hadded [] (.addControl (.blockEnd true)) _ (.ofNumber 8) rfl hid
  exact ⟨hlimit, hnodup hloaded, hremove, hissued⟩

end Program

end ScriptComposer
