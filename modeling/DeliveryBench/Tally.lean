import DeliveryBench.Ordering

/-!
Tables that are filled one entry after the other.

`enter` changes the row of a name, which is made first if there is none yet, and `tally` does so for
one thing after the other. What stands in a row in the end depends only on the things of its name
(`lookup_tally`), and the names that have a row are those that have occurred (`mem_names_tally`),
each once (`nodup_names_tally`) and in order (`pairwise_names_tally`). Together these say what the
whole table is (`tally_eq_map`).
-/

namespace DeliveryBench

variable {α β γ : Type} [DecidableEq α]

/-- Changes the row of a name. If there is none, it is made, in its place among the others. -/
def enter (le : α → α → Bool) (fresh : β) (change : β → β) (name : α) (rows : List (α × β)) :
    List (α × β) :=
  match rows.lookup name with
  | some row => rows.map fun entry => (entry.1, if entry.1 = name then change row else entry.2)
  | none => insertBy (fun a b => le a.1 b.1) (name, change fresh) rows

/-- Enters one thing after the other, each in the row of its name. -/
def tally (le : α → α → Bool) (fresh : β) (name : γ → α) (put : γ → β → β) (xs : List γ) :
    List (α × β) :=
  xs.foldl (fun rows x => enter le fresh (put x) (name x) rows) []

variable {le : α → α → Bool} {fresh : β} {change : β → β} {name : γ → α} {put : γ → β → β}
  {rows : List (α × β)} {xs : List γ} {n m : α}

/-! ## Rows -/

theorem lookup_cons_pair (n : α) (row : β) (rows : List (α × β)) :
    ((n, row) :: rows).lookup m = if m = n then some row else rows.lookup m := by
  by_cases same : m = n
  · rw [if_pos same, List.lookup_cons, beq_iff_eq.2 same]
  · rw [if_neg same, List.lookup_cons, beq_false_of_ne same]

theorem lookup_map {h : α × β → α × β} (keep : ∀ entry, (h entry).1 = entry.1) :
    (rows.map h).lookup n = (rows.lookup n).map fun row => (h (n, row)).2 := by
  induction rows with
  | nil => rfl
  | cons entry rest ih =>
      obtain ⟨other, row⟩ := entry
      have head : h (other, row) = (other, (h (other, row)).2) := Prod.ext (keep (other, row)) rfl
      rw [List.map_cons, head, lookup_cons_pair, lookup_cons_pair, ih]
      by_cases here : n = other
      · rw [if_pos here, if_pos here, here]
        rfl
      · rw [if_neg here, if_neg here]

theorem lookup_insertBy (row : β) (absent : rows.lookup n = none) :
    (insertBy (fun a b => le a.1 b.1) (n, row) rows).lookup m =
      if m = n then some row else rows.lookup m := by
  induction rows with
  | nil => exact lookup_cons_pair n row []
  | cons entry rest ih =>
      obtain ⟨other, kept⟩ := entry
      unfold insertBy
      split
      · exact lookup_cons_pair n row _
      · rw [lookup_cons_pair] at absent
        have differs : n ≠ other := by
          intro same
          rw [if_pos same] at absent
          cases absent
        rw [if_neg differs] at absent
        rw [lookup_cons_pair, lookup_cons_pair, ih absent]
        by_cases here : m = other
        · rw [if_pos here, if_pos here, if_neg fun same => differs (same.symm.trans here)]
        · rw [if_neg here, if_neg here]

theorem lookup_eq_none_iff_not_mem : rows.lookup n = none ↔ n ∉ rows.map Prod.fst := by
  rw [List.lookup_eq_none_iff, List.mem_map]
  constructor
  · rintro other ⟨entry, member, same⟩
    exact bne_iff_ne.1 (other entry member) same.symm
  · intro absent entry member
    exact bne_iff_ne.2 fun same => absent ⟨entry, member, same.symm⟩

/-- A table is known by its names and by what is found under them. -/
theorem eq_map_lookup (distinct : (rows.map Prod.fst).Nodup) (fresh : β) :
    rows = (rows.map Prod.fst).map fun n => (n, (rows.lookup n).getD fresh) := by
  induction rows with
  | nil => rfl
  | cons entry rest ih =>
      obtain ⟨n, row⟩ := entry
      obtain ⟨alone, distinct⟩ := List.nodup_cons.1 distinct
      rw [List.map_cons, List.map_cons, lookup_cons_pair, if_pos rfl]
      refine congrArg ((n, row) :: ·) ((ih distinct).trans (List.map_congr_left fun m later => ?_))
      rw [lookup_cons_pair, if_neg fun same : m = n => alone (same ▸ later)]

/-! ## One entry -/

/-- The row of the name changes, and no other does. -/
theorem lookup_enter (le : α → α → Bool) : (enter le fresh change n rows).lookup m =
    if m = n then some (change ((rows.lookup n).getD fresh)) else rows.lookup m := by
  unfold enter
  split
  · rename_i row there
    have changed (entry : α × β) :
        (entry.1, if entry.1 = n then change row else entry.2).1 = entry.1 := rfl
    rw [lookup_map changed]
    by_cases here : m = n
    · subst here
      rw [there, Option.map_some, if_pos rfl, if_pos rfl]
      rfl
    · simp only [here, if_false, Option.map_id']
  · rename_i absent
    rw [lookup_insertBy _ absent, absent]
    rfl

omit [DecidableEq α] in
theorem map_fst_insertBy (n : α) (row : β) (rows : List (α × β)) :
    (insertBy (fun a b => le a.1 b.1) (n, row) rows).map Prod.fst =
      insertBy le n (rows.map Prod.fst) := by
  induction rows with
  | nil => rfl
  | cons entry rest ih =>
      unfold insertBy
      rw [List.map_cons]
      dsimp only
      split
      · rfl
      · rw [List.map_cons, ih]

/-- The name has a row afterwards, and the others have theirs as before. -/
theorem names_enter : (enter le fresh change n rows).map Prod.fst =
    if n ∈ rows.map Prod.fst then rows.map Prod.fst else insertBy le n (rows.map Prod.fst) := by
  unfold enter
  split
  · rename_i row there
    rw [if_pos, List.map_map]
    · rfl
    · exact Decidable.of_not_not fun absent =>
        Option.some_ne_none row (there.symm.trans (lookup_eq_none_iff_not_mem.2 absent))
  · rename_i absent
    rw [if_neg (lookup_eq_none_iff_not_mem.1 absent)]
    exact map_fst_insertBy _ _ _

theorem mem_names_enter : m ∈ (enter le fresh change n rows).map Prod.fst ↔
    m = n ∨ m ∈ rows.map Prod.fst := by
  rw [names_enter]
  split
  · rename_i present
    exact ⟨.inr, fun either => either.elim (· ▸ present) id⟩
  · rw [(insertBy_perm le n _).mem_iff, List.mem_cons]

/-! ## One entry after the other -/

/-- In the row of a name stands what the things of that name have made of it. -/
theorem lookup_tally (le : α → α → Bool) (fresh : β) (name : γ → α) (put : γ → β → β) (xs : List γ)
    (n : α) : ((tally le fresh name put xs).lookup n).getD fresh =
      (xs.filter fun x => name x == n).foldl (fun row x => put x row) fresh := by
  suffices further : ∀ rows : List (α × β),
      ((xs.foldl (fun rows x => enter le fresh (put x) (name x) rows) rows).lookup n).getD fresh =
        (xs.filter fun x => name x == n).foldl (fun row x => put x row)
          ((rows.lookup n).getD fresh) from further []
  induction xs with
  | nil => exact fun _ => rfl
  | cons x rest ih =>
      intro rows
      rw [List.foldl_cons, ih, lookup_enter]
      by_cases here : name x = n
      · subst here
        rw [if_pos rfl, List.filter_cons, beq_self_eq_true]
        rfl
      · rw [if_neg (Ne.symm here), List.filter_cons, beq_false_of_ne here]
        rfl

/-- The names that have a row are those that have occurred. -/
theorem mem_names_tally :
    n ∈ (tally le fresh name put xs).map Prod.fst ↔ ∃ x ∈ xs, name x = n := by
  suffices further : ∀ rows : List (α × β),
      n ∈ (xs.foldl (fun rows x => enter le fresh (put x) (name x) rows) rows).map Prod.fst ↔
        n ∈ rows.map Prod.fst ∨ ∃ x ∈ xs, name x = n from
    (further []).trans (or_iff_right List.not_mem_nil)
  induction xs with
  | nil => exact fun _ => by simp
  | cons x rest ih =>
      intro rows
      rw [List.foldl_cons, ih, mem_names_enter]
      simp only [List.mem_cons, exists_eq_or_imp, eq_comm (a := n)]
      exact or_right_comm.trans (or_comm)

theorem nodup_names_tally : ((tally le fresh name put xs).map Prod.fst).Nodup := by
  refine List.foldlRecOn (motive := fun rows : List (α × β) => (rows.map Prod.fst).Nodup) xs _
    List.nodup_nil fun rows distinct x _ => ?_
  rw [names_enter]
  split
  · exact distinct
  · rename_i absent
    exact (insertBy_perm le (name x) _).nodup_iff.2 (List.nodup_cons.2 ⟨absent, distinct⟩)

theorem pairwise_names_tally (total : ∀ a b, le a b = true ∨ le b a = true)
    (trans : ∀ a b c, le a b = true → le b c = true → le a c = true) :
    ((tally le fresh name put xs).map Prod.fst).Pairwise fun a b => le a b = true := by
  refine List.foldlRecOn (motive := fun rows : List (α × β) =>
    (rows.map Prod.fst).Pairwise fun a b => le a b = true) xs _ List.Pairwise.nil
    fun rows ordered x _ => ?_
  rw [names_enter]
  split
  · exact ordered
  · exact pairwise_insertBy total trans ordered

/-- The whole table, from the names that it has. -/
theorem tally_eq_map (le : α → α → Bool) (fresh : β) (name : γ → α) (put : γ → β → β)
    (xs : List γ) : tally le fresh name put xs =
      ((tally le fresh name put xs).map Prod.fst).map fun n =>
        (n, (xs.filter fun x => name x == n).foldl (fun row x => put x row) fresh) := by
  refine (eq_map_lookup nodup_names_tally fresh).trans (List.map_congr_left fun n _ => ?_)
  rw [lookup_tally]

/-! ## Counts, and names in ascending order -/

/-- Where things are counted, a row is the number of things of its name. -/
theorem lookup_tally_count (le : α → α → Bool) (name : γ → α) (xs : List γ) (n : α) :
    ((tally le 0 name (fun _ count => count + 1) xs).lookup n).getD 0 =
      xs.countP fun x => name x == n := by
  rw [lookup_tally, List.countP_eq_length_filter]
  generalize xs.filter (fun x => name x == n) = own
  suffices further : ∀ count, own.foldl (fun count _ => count + 1) count = count + own.length from
    (further 0).trans (Nat.zero_add own.length)
  induction own with
  | nil => exact fun _ => rfl
  | cons x rest ih =>
      intro count
      rw [List.foldl_cons, ih, List.length_cons, Nat.add_right_comm]
      rfl

/-- Inserting names one after the other puts them in order as well. -/
theorem foldl_insertAscending (name : γ → String) (xs : List γ) :
    xs.foldl (fun names x => insertAscending (name x) names) [] = ascending (xs.map name) := by
  have backwards : xs.foldl (fun names x => insertAscending (name x) names) [] =
      ascending (xs.reverse.map name) := by
    rw [List.foldl_eq_foldr_reverse, ascending, List.foldr_map]
  rw [backwards]
  refine eq_of_ascending (pairwise_ascending _) (pairwise_ascending _) fun n => ?_
  rw [mem_ascending, mem_ascending, List.map_reverse, List.mem_reverse]

/-- The order in which names are listed. -/
def byName (a b : String) : Bool :=
  decide (a ≤ b)

theorem byName_total (a b : String) : byName a b = true ∨ byName b a = true := by
  unfold byName
  rw [decide_eq_true_iff, decide_eq_true_iff]
  exact String.le_total a b

theorem byName_trans (a b c : String) (first : byName a b = true) (second : byName b c = true) :
    byName a c = true := by
  unfold byName at first second ⊢
  rw [decide_eq_true_iff] at first second ⊢
  exact String.le_trans first second

/-- In a table ordered by names stand the names that occur, in ascending order. -/
theorem names_tally (fresh : β) (name : γ → String) (put : γ → β → β) (xs : List γ) :
    (tally byName fresh name put xs).map Prod.fst = ascending (xs.map name) := by
  refine eq_of_ascending ?_ (pairwise_ascending _) fun n => ?_
  · have ordered : ((tally byName fresh name put xs).map Prod.fst).Pairwise
        fun a b => byName a b = true := pairwise_names_tally byName_total byName_trans
    refine (ordered.and nodup_names_tally).imp fun {a b} both => ?_
    exact String.not_le.1 fun back =>
      both.2 (String.le_antisymm (of_decide_eq_true both.1) back)
  · rw [mem_names_tally, mem_ascending, List.mem_map]

end DeliveryBench
