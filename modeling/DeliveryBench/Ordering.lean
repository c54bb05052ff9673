/-!
Two ways to put a list in order.

* `sortBy` sorts stably: elements of equal rank keep their order.
* `ascending` lists the distinct members of a list in strictly ascending order.

Both build the answer by inserting one element after the other, so that each law is one lemma on
the insertion and one induction. `sortBy_perm` and `mem_ascending` say that nothing is lost,
`pairwise_sortBy_of_total` and `pairwise_ascending` that the answer is in order.
-/

namespace DeliveryBench

variable {α : Type}

/-! ## Stable sorting -/

/-- Puts `a` in front of the first element that it may precede. -/
def insertBy (le : α → α → Bool) (a : α) : List α → List α
  | [] => [a]
  | b :: rest => if le a b then a :: b :: rest else b :: insertBy le a rest

/-- Sorts by `le`, keeping elements of equal rank in their order. -/
def sortBy (le : α → α → Bool) (xs : List α) : List α :=
  xs.foldr (insertBy le) []

@[simp] theorem sortBy_nil (le : α → α → Bool) : sortBy le [] = [] := rfl

@[simp] theorem sortBy_cons (le : α → α → Bool) (a : α) (xs : List α) :
    sortBy le (a :: xs) = insertBy le a (sortBy le xs) := rfl

theorem insertBy_perm (le : α → α → Bool) (a : α) (xs : List α) :
    (insertBy le a xs).Perm (a :: xs) := by
  induction xs with
  | nil => exact .refl _
  | cons b rest ih =>
    unfold insertBy
    split
    · exact .refl _
    · exact (ih.cons b).trans (.swap a b rest)

theorem sortBy_perm (le : α → α → Bool) (xs : List α) : (sortBy le xs).Perm xs := by
  induction xs with
  | nil => exact .refl _
  | cons a rest ih => exact (insertBy_perm le a _).trans (ih.cons a)

theorem mem_sortBy {le : α → α → Bool} {xs : List α} {a : α} : a ∈ sortBy le xs ↔ a ∈ xs :=
  (sortBy_perm le xs).mem_iff

theorem length_sortBy (le : α → α → Bool) (xs : List α) : (sortBy le xs).length = xs.length :=
  (sortBy_perm le xs).length_eq

theorem pairwise_insertBy {le : α → α → Bool} (total : ∀ a b, le a b = true ∨ le b a = true)
    (trans : ∀ a b c, le a b = true → le b c = true → le a c = true) {a : α} {xs : List α}
    (sorted : xs.Pairwise fun a b => le a b = true) :
    (insertBy le a xs).Pairwise fun a b => le a b = true := by
  induction xs with
  | nil => exact List.pairwise_singleton _ _
  | cons b rest ih =>
      rcases List.pairwise_cons.1 sorted with ⟨first, later⟩
      unfold insertBy
      by_cases before : le a b = true
      · rw [if_pos before]
        refine List.pairwise_cons.2 ⟨?_, sorted⟩
        intro c member
        rcases List.mem_cons.1 member with rfl | member
        · exact before
        · exact trans a b c before (first c member)
      · rw [if_neg before]
        refine List.pairwise_cons.2 ⟨?_, ih later⟩
        intro c member
        rcases List.mem_cons.1 ((insertBy_perm _ a rest).subset member) with rfl | member
        · exact (total c b).resolve_left before
        · exact first c member

/-- Sorting by a total order puts the elements in order. -/
theorem pairwise_sortBy_of_total {le : α → α → Bool}
    (total : ∀ a b, le a b = true ∨ le b a = true)
    (trans : ∀ a b c, le a b = true → le b c = true → le a c = true) (xs : List α) :
    (sortBy le xs).Pairwise fun a b => le a b = true := by
  induction xs with
  | nil => exact List.Pairwise.nil
  | cons a rest ih => exact pairwise_insertBy total trans ih

/-- Sorting by a number puts the numbers in order. -/
theorem pairwise_sortBy {α : Type} (number : α → Nat) (xs : List α) :
    (sortBy (fun a b => decide (number a ≤ number b)) xs).Pairwise
      fun a b => number a ≤ number b := by
  apply (pairwise_sortBy_of_total _ _ xs).imp
  · exact of_decide_eq_true
  · intro a b
    rw [decide_eq_true_iff, decide_eq_true_iff]
    exact Nat.le_total _ _
  · intro a b c
    rw [decide_eq_true_iff, decide_eq_true_iff, decide_eq_true_iff]
    exact Nat.le_trans

/-! ## Numbers that tell apart -/

/-- Where no two elements bear the same number, a number leads to its element. -/
theorem find?_eq_some_iff_of_nodup {α : Type} {number : α → Nat} {xs : List α}
    (distinct : (xs.map number).Nodup) {n : Nat} {a : α} :
    xs.find? (fun x => number x == n) = some a ↔ a ∈ xs ∧ number a = n := by
  induction xs with
  | nil => simp
  | cons x rest ih =>
      obtain ⟨unlike, later⟩ := List.nodup_cons.1 distinct
      by_cases here : number x = n
      · rw [List.find?_cons_of_pos (p := fun x => number x == n) (beq_iff_eq.2 here)]
        constructor
        · rintro ⟨⟩
          exact ⟨List.mem_cons_self, here⟩
        · rintro ⟨member, same⟩
          rcases List.mem_cons.1 member with rfl | other
          · rfl
          · rw [here, ← same] at unlike
            exact absurd (List.mem_map_of_mem other) unlike
      · rw [List.find?_cons_of_neg (p := fun x => number x == n) (mt beq_iff_eq.1 here),
          ih later, List.mem_cons]
        constructor
        · exact fun ⟨member, same⟩ => ⟨.inr member, same⟩
        · rintro ⟨rfl | member, same⟩
          · exact absurd same here
          · exact ⟨member, same⟩

/-- There is only one way to put different numbers in order. -/
theorem eq_of_perm_of_ascending {α : Type} {number : α → Nat} {xs ys : List α} (perm : xs.Perm ys)
    (ascending : xs.Pairwise fun a b => number a ≤ number b)
    (strictly : ys.Pairwise fun a b => number a < number b) : xs = ys := by
  have distinct (a b : α) (here : a ∈ ys) (there : b ∈ ys) (same : number a = number b) : a = b := by
    rcases List.getElem_of_mem here with ⟨i, inside, rfl⟩
    rcases List.getElem_of_mem there with ⟨k, inside', rfl⟩
    have ordered := List.pairwise_iff_getElem.1 strictly
    rcases Nat.lt_trichotomy i k with before | rfl | after
    · exact absurd same (Nat.ne_of_lt (ordered i k inside inside' before))
    · rfl
    · exact absurd same.symm (Nat.ne_of_lt (ordered k i inside' inside after))
  refine perm.eq_of_pairwise ?_ ascending (strictly.imp Nat.le_of_lt)
  intro a b here there upTo back
  exact distinct a b (perm.subset here) there (Nat.le_antisymm upTo back)

/-! ## Distinct members in ascending order -/

/-- Inserts a name into an ascending list, once. -/
def insertAscending (a : String) : List String → List String
  | [] => [a]
  | b :: rest =>
    if a = b then b :: rest
    else if a < b then a :: b :: rest
    else b :: insertAscending a rest

/-- The distinct members of a list of names, ordered by code points. -/
def ascending (names : List String) : List String :=
  names.foldr insertAscending []

@[simp] theorem ascending_nil : ascending [] = [] := rfl

@[simp] theorem ascending_cons (a : String) (names : List String) :
    ascending (a :: names) = insertAscending a (ascending names) := rfl

theorem mem_insertAscending {a b : String} {names : List String} :
    b ∈ insertAscending a names ↔ b = a ∨ b ∈ names := by
  induction names with
  | nil => simp [insertAscending]
  | cons c rest ih =>
    unfold insertAscending
    split
    · rename_i h
      subst h
      simp
    · split
      · simp
      · simp only [List.mem_cons, ih]
        exact or_left_comm

theorem mem_ascending {b : String} {names : List String} : b ∈ ascending names ↔ b ∈ names := by
  induction names with
  | nil => simp
  | cons a rest ih => simp [mem_insertAscending, ih]

theorem pairwise_insertAscending {a : String} {names : List String}
    (ascending : names.Pairwise (· < ·)) : (insertAscending a names).Pairwise (· < ·) := by
  induction names with
  | nil => exact List.pairwise_singleton _ _
  | cons b rest ih =>
      rcases List.pairwise_cons.1 ascending with ⟨first, later⟩
      unfold insertAscending
      by_cases same : a = b
      · rw [if_pos same]
        exact ascending
      · rw [if_neg same]
        by_cases before : a < b
        · rw [if_pos before]
          refine List.pairwise_cons.2 ⟨?_, ascending⟩
          intro c member
          rcases List.mem_cons.1 member with rfl | member
          · exact before
          · exact String.lt_trans before (first c member)
        · rw [if_neg before]
          refine List.pairwise_cons.2 ⟨?_, ih later⟩
          intro c member
          rcases mem_insertAscending.1 member with rfl | member
          · apply String.not_le.1
            intro after
            exact same (String.le_antisymm (String.not_lt.1 before) after).symm
          · exact first c member

theorem pairwise_ascending (names : List String) : (ascending names).Pairwise (· < ·) := by
  induction names with
  | nil => exact List.Pairwise.nil
  | cons a rest ih => exact pairwise_insertAscending ih

theorem nodup_of_ascending {names : List String} (ascending : names.Pairwise (· < ·)) :
    names.Nodup := by
  apply ascending.imp
  rintro a b before rfl
  exact String.lt_irrefl a before

theorem nodup_ascending (names : List String) : (ascending names).Nodup :=
  nodup_of_ascending (pairwise_ascending names)

/-- Names in strictly ascending order are known by their members. -/
theorem eq_of_ascending {names others : List String} (ascending : names.Pairwise (· < ·))
    (ascending' : others.Pairwise (· < ·)) (same : ∀ name, name ∈ names ↔ name ∈ others) :
    names = others := by
  have perm : names.Perm others :=
    (List.perm_ext_iff_of_nodup (nodup_of_ascending ascending)
      (nodup_of_ascending ascending')).2 fun _ => same _
  apply perm.eq_of_pairwise _ ascending ascending'
  intro a b _ _ before after
  exact absurd (String.lt_trans before after) (String.lt_irrefl a)

/-- Names in the order of their code points, repetitions kept. -/
def sortNames (names : List String) : List String :=
  sortBy (fun a b => decide (a ≤ b)) names

theorem pairwise_sortNames (names : List String) : (sortNames names).Pairwise (· ≤ ·) := by
  apply (pairwise_sortBy_of_total _ _ names).imp
  · exact of_decide_eq_true
  · intro a b
    rw [decide_eq_true_iff, decide_eq_true_iff]
    exact String.le_total a b
  · intro a b c
    rw [decide_eq_true_iff, decide_eq_true_iff, decide_eq_true_iff]
    exact String.le_trans

/-- Sorting shows what two lists hold, whatever their order. -/
theorem sortNames_eq_iff {names others : List String} :
    sortNames names = sortNames others ↔ names.Perm others := by
  constructor
  · intro same
    exact (sortBy_perm _ names).symm.trans (.trans (.of_eq same) (sortBy_perm _ others))
  · intro perm
    have sorted : (sortNames names).Perm (sortNames others) :=
      (sortBy_perm _ names).trans (perm.trans (sortBy_perm _ others).symm)
    exact sorted.eq_of_pairwise (fun _ _ _ _ => String.le_antisymm) (pairwise_sortNames _)
      (pairwise_sortNames _)

end DeliveryBench
