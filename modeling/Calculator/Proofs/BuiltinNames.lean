import Calculator.Proofs.Bindings

/-!
# Names that mean built-in functions

A name is taken by a built-in function if a list contains it.  Which function a name means is found
out by rewriting its first letters, for any letters that come after them.  The main statement says
where the two agree.  They do for all names but one, the name `arcbs`, which means a function
although it is not taken.  Calls ask for the list first, so that no call notices the difference.
-/

namespace Calculator

namespace Builtin

/-- The names that mean a function as they are. -/
def mainNames : List String :=
  "ln" :: all.map Builtin.name

/-- The name that is shortened to a main name which begins with `a`. -/
def lengthen (main : String) : String :=
  String.ofList ('a' :: 'r' :: 'c' :: main.toList.tail)

variable {name : String}

theorem shorten_mem_mainNames (meaningful : (ofName? name).isSome = true) :
    shorten name ∈ mainNames := by
  unfold ofName? at meaningful
  dsimp only at meaningful
  split at meaningful
  · next isLogarithm =>
    rw [isLogarithm]
    exact List.mem_cons_self
  · obtain ⟨builtin, isBuiltin, named⟩ := List.find?_isSome.mp meaningful
    rw [← beq_iff_eq.mp named]
    exact List.mem_cons_of_mem _ (List.mem_map_of_mem isBuiltin)

/-- Only names that begin with `arc` are shortened, and they can be found again. -/
theorem eq_shorten_or_eq_lengthen (name : String) :
    name = shorten name ∨
      (shorten name).toList.head? = some 'a' ∧ name = lengthen (shorten name) := by
  unfold shorten
  split
  · next first rest chars =>
    refine Or.inr ⟨by rw [String.toList_ofList, List.head?_cons], ?_⟩
    rw [lengthen, String.toList_ofList, List.tail_cons, ← chars, String.ofList_toList]
  · exact Or.inl rfl

theorem isName_of_mem_mainNames (isMain : name ∈ mainNames) : isName name = true := by
  have each : ∀ main ∈ mainNames, isName main = true := by decide +kernel
  exact each name isMain

/-- All inverse functions go by names that begin with `arc`, but so does one other function. -/
theorem isName_lengthen (isMain : name ∈ mainNames) (begins : name.toList.head? = some 'a') :
    isName (lengthen name) = true ∨ lengthen name = "arcbs" := by
  have each : ∀ main ∈ mainNames, main.toList.head? = some 'a' →
      isName (lengthen main) = true ∨ lengthen main = "arcbs" := by
    decide +kernel
  exact each name isMain begins

theorem isName_or_eq_of_isSome (meaningful : (ofName? name).isSome = true) :
    isName name = true ∨ name = "arcbs" := by
  have isMain : shorten name ∈ mainNames := shorten_mem_mainNames meaningful
  rcases eq_shorten_or_eq_lengthen name with same | ⟨begins, longer⟩
  · rw [same]
    exact Or.inl (isName_of_mem_mainNames isMain)
  · rw [longer]
    exact isName_lengthen isMain begins

/-- A name means a built-in function if it is taken by one, and in one other case.  A symbol table,
which asks first whether the name is taken, gives a built-in function for just the names that
are. -/
theorem isSome_ofName?_iff (name : String) :
    ((ofName? name).isSome = true ↔ isName name = true ∨ name = "arcbs") ∧
      ∀ table : SymbolTable,
        (∃ builtin, table.function? name = some (.builtin builtin)) ↔ isName name = true := by
  refine ⟨⟨isName_or_eq_of_isSome, ?_⟩, fun table => ⟨?_, ?_⟩⟩
  · rintro (taken | rfl)
    · obtain ⟨builtin, -, found⟩ := exists_meaning taken
      rw [found, Option.isSome_some]
    · decide +kernel
  · rintro ⟨builtin, found⟩
    by_contra free
    rw [SymbolTable.function?, if_neg free] at found
    split at found
    · cases found
    · obtain ⟨host, -, isBuiltin⟩ := Option.map_eq_some_iff.mp found
      cases isBuiltin
  · intro taken
    obtain ⟨builtin, -, found⟩ := table.function?_builtin taken
    exact ⟨builtin, found⟩

/-- The name `arcbs` is shortened to `abs`, which is no inverse function, and it is not taken. -/
theorem not_isName_arcbs :
    ¬∀ name, isName name = true ↔ (ofName? name).isSome = true := by
  intro agree
  have taken : isName "arcbs" = true := (agree "arcbs").mpr (by decide +kernel)
  revert taken
  decide +kernel

end Builtin

end Calculator
