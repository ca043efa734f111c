/-!
# Association lists sorted by key

Tables and objects are lists of entries whose keys increase in code point order.  Keeping them
sorted makes listings come out in order, and makes two tables with the same bindings equal.  The
main statements are what a key is bound to after a binding, and that binding keeps the order.
-/

namespace Calculator

/-- Keys with their values, in increasing order of the keys. -/
abbrev Entries (α : Type) := List (String × α)

namespace Entries

variable {α : Type}

def get? : Entries α → String → Option α
  | [], _ => none
  | (present, value) :: rest, key => if present = key then some value else get? rest key

/-- Bind a key, in place of an earlier binding. -/
def put (key : String) (value : α) : Entries α → Entries α
  | [] => [(key, value)]
  | (present, old) :: rest =>
    if key < present then (key, value) :: (present, old) :: rest
    else if key = present then (key, value) :: rest
    else (present, old) :: put key value rest

/-- Bind keys in the order of a list, so that a later binding of a key wins. -/
def ofList (bindings : List (String × α)) : Entries α :=
  bindings.foldl (fun entries (key, value) => put key value entries) []

def binds (entries : Entries α) (key : String) : Bool :=
  (get? entries key).isSome

@[simp] theorem get?_nil (key : String) : get? ([] : Entries α) key = none := rfl

/-- A new binding answers for its own key and leaves every other key as it was. -/
theorem get?_put (entries : Entries α) (key wanted : String) (value : α) :
    get? (put key value entries) wanted =
      if key = wanted then some value else get? entries wanted := by
  induction entries with
  | nil => simp [put, get?]
  | cons entry rest ih =>
    obtain ⟨present, old⟩ := entry
    unfold put
    split
    · rfl
    · split
      · next equal =>
        subst equal
        simp only [get?]
        split <;> rfl
      · next different =>
        simp only [get?, ih]
        by_cases samePresent : present = wanted
        · subst samePresent
          simp [different]
        · simp [samePresent]

theorem get?_put_self (entries : Entries α) (key : String) (value : α) :
    get? (put key value entries) key = some value := by
  simp [get?_put]

theorem get?_put_of_ne (entries : Entries α) {key wanted : String} (value : α)
    (different : key ≠ wanted) : get? (put key value entries) wanted = get? entries wanted := by
  simp [get?_put, different]

/-- Among keys that are paired with values, every key is bound. -/
theorem exists_get?_zip {keys : List String} {values : List α} {key : String}
    (length : values.length = keys.length) (member : key ∈ keys) :
    ∃ value, get? (keys.zip values) key = some value := by
  induction keys generalizing values with
  | nil => cases member
  | cons first rest ih =>
    cases values with
    | nil => cases length
    | cons value later =>
      rw [List.zip_cons_cons, get?]
      by_cases isFirst : first = key
      · exact ⟨value, if_pos isFirst⟩
      · rw [if_neg isFirst]
        apply ih (Nat.succ.inj length)
        exact (List.mem_cons.mp member).resolve_left (Ne.symm isFirst)

theorem get?_zip_eq_none {keys : List String} {key : String} (absent : key ∉ keys)
    (values : List α) : get? (keys.zip values) key = none := by
  induction keys generalizing values with
  | nil => rfl
  | cons first rest ih =>
    cases values with
    | nil => rfl
    | cons value later =>
      rw [List.zip_cons_cons, get?, if_neg (List.ne_of_not_mem_cons absent).symm]
      exact ih (List.not_mem_of_not_mem_cons absent) later

def Sorted (entries : Entries α) : Prop :=
  entries.Pairwise fun earlier later => earlier.1 < later.1

theorem sorted_nil : Sorted ([] : Entries α) := List.Pairwise.nil

/-- The keys after a binding are the earlier ones and the new one. -/
theorem mem_put {entries : Entries α} {key : String} {value : α} {entry : String × α}
    (member : entry ∈ put key value entries) : entry = (key, value) ∨ entry ∈ entries := by
  induction entries with
  | nil => exact Or.inl (List.mem_singleton.mp member)
  | cons head rest ih =>
    obtain ⟨present, old⟩ := head
    unfold put at member
    split at member
    · exact List.mem_cons.mp member
    · split at member
      · rcases List.mem_cons.mp member with isNew | isRest
        · exact Or.inl isNew
        · exact Or.inr (List.mem_cons_of_mem _ isRest)
      · rcases List.mem_cons.mp member with isHead | isLater
        · exact Or.inr (List.mem_cons.mpr (Or.inl isHead))
        · exact (ih isLater).imp_right (List.mem_cons_of_mem _)

theorem sorted_put {entries : Entries α} (sorted : Sorted entries) (key : String) (value : α) :
    Sorted (put key value entries) := by
  induction entries with
  | nil => exact List.pairwise_singleton _ _
  | cons head rest ih =>
    obtain ⟨present, old⟩ := head
    obtain ⟨headFirst, restSorted⟩ := List.pairwise_cons.mp sorted
    unfold put
    split
    · next before =>
      refine List.pairwise_cons.mpr ⟨fun entry member => ?_, sorted⟩
      rcases List.mem_cons.mp member with isHead | isRest
      · rw [isHead]
        exact before
      · exact String.lt_trans before (headFirst entry isRest)
    · split
      · next equal =>
        exact List.pairwise_cons.mpr
          ⟨fun entry member => equal ▸ headFirst entry member, restSorted⟩
      · next notBefore different =>
        refine List.pairwise_cons.mpr ⟨fun entry member => ?_, ih restSorted⟩
        rcases mem_put member with isNew | isRest
        · rw [isNew]
          exact Std.lt_of_le_of_ne (String.not_lt.mp notBefore) (Ne.symm different)
        · exact headFirst entry isRest

theorem get?_eq_none_of_lt {entries : Entries α} {key : String}
    (later : ∀ entry ∈ entries, key < entry.1) : get? entries key = none := by
  induction entries with
  | nil => rfl
  | cons entry rest ih =>
    obtain ⟨first, afterwards⟩ := List.forall_mem_cons.mp later
    rw [get?, if_neg (Std.ne_of_lt first).symm]
    exact ih afterwards

/-- Sorted entries with the same bindings are equal. -/
theorem ext_sorted {one other : Entries α} (oneSorted : Sorted one) (otherSorted : Sorted other)
    (same : ∀ key, get? one key = get? other key) : one = other := by
  induction one generalizing other with
  | nil =>
    cases other with
    | nil => rfl
    | cons entry rest => simpa [get?] using same entry.1
  | cons first later ih =>
    cases other with
    | nil => simpa [get?] using same first.1
    | cons second rest =>
      obtain ⟨firstLess, laterSorted⟩ := List.pairwise_cons.mp oneSorted
      obtain ⟨secondLess, restSorted⟩ := List.pairwise_cons.mp otherSorted
      -- A smaller key at the front of one list would not be bound in the other one.
      have notLess : ¬first.1 < second.1 := by
        intro less
        have absent : get? (second :: rest) first.1 = none := by
          refine get?_eq_none_of_lt (List.forall_mem_cons.mpr ⟨less, fun entry member => ?_⟩)
          exact String.lt_trans less (secondLess entry member)
        rw [← same first.1, get?, if_pos rfl] at absent
        cases absent
      have notGreater : ¬second.1 < first.1 := by
        intro less
        have absent : get? (first :: later) second.1 = none := by
          refine get?_eq_none_of_lt (List.forall_mem_cons.mpr ⟨less, fun entry member => ?_⟩)
          exact String.lt_trans less (firstLess entry member)
        rw [same second.1, get?, if_pos rfl] at absent
        cases absent
      have sameKey : first.1 = second.1 :=
        String.le_antisymm (String.not_lt.mp notGreater) (String.not_lt.mp notLess)
      have sameValue : first.2 = second.2 := by
        simpa [get?, sameKey] using same first.1
      have sameRest : later = rest := by
        refine ih laterSorted restSorted fun key => ?_
        by_cases isFirst : first.1 = key
        · subst isFirst
          rw [get?_eq_none_of_lt firstLess, sameKey, get?_eq_none_of_lt secondLess]
        · have sameLater := same key
          rwa [get?, if_neg isFirst, get?, if_neg (sameKey ▸ isFirst)] at sameLater
      rw [Prod.ext sameKey sameValue, sameRest]

/-- A list of bindings gives sorted entries. -/
theorem sorted_ofList (bindings : List (String × α)) : Sorted (ofList bindings) := by
  suffices ∀ entries : Entries α, Sorted entries →
      Sorted (bindings.foldl (fun entries (key, value) => put key value entries) entries) from
    this [] sorted_nil
  induction bindings with
  | nil => exact fun _ sorted => sorted
  | cons binding rest ih => exact fun entries sorted => ih _ (sorted_put sorted _ _)

/-- A key behind all others is bound at the end. -/
theorem put_of_forall_lt {entries : Entries α} {key : String} (value : α)
    (earlier : ∀ entry ∈ entries, entry.1 < key) :
    put key value entries = entries ++ [(key, value)] := by
  induction entries with
  | nil => rfl
  | cons entry rest ih =>
    obtain ⟨first, afterwards⟩ := List.forall_mem_cons.mp earlier
    have notBefore : ¬key < entry.1 := fun before => String.lt_irrefl _ (String.lt_trans before first)
    have different : key ≠ entry.1 := (Std.ne_of_lt first).symm
    rw [put, if_neg notBefore, if_neg different, ih afterwards, List.cons_append]

/-- Sorted entries are what their own bindings make. -/
theorem ofList_of_sorted {entries : Entries α} (sorted : Sorted entries) :
    ofList entries = entries := by
  suffices grows : ∀ front rest : Entries α, Sorted (front ++ rest) →
      rest.foldl (fun entries (key, value) => put key value entries) front = front ++ rest from
    grows [] entries sorted
  intro front rest
  induction rest generalizing front with
  | nil => simp
  | cons entry rest ih =>
    intro sorted
    have earlier : ∀ present ∈ front, present.1 < entry.1 := fun present member =>
      (List.pairwise_append.mp sorted).2.2 present member entry List.mem_cons_self
    have moved : front ++ entry :: rest = (front ++ [entry]) ++ rest := by simp
    have atEnd : put entry.1 entry.2 front = front ++ [entry] := put_of_forall_lt entry.2 earlier
    change rest.foldl _ (put entry.1 entry.2 front) = _
    rw [atEnd, moved]
    exact ih (front ++ [entry]) (moved ▸ sorted)

end Entries

end Calculator
