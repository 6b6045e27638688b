import TypedClients.Declaration

/-!
# What counts in a declaration

Verbs, attributes and arguments are looked for in order, and the first one that fits counts. That
an item is the first one says what stands before it in the list; it does not go through a search.

`Annotates`, `Begins` and `Sets` are three such statements, about attributes, positional arguments
and named ones. The theorems about what is extracted are stated with them.
-/

namespace TypedClients

open Text

section First

variable {Item : Type} {fits : Item → Prop} {items : List Item} {item : Item}

/-- An item of a list fits, and none before it does. -/
def IsFirst (fits : Item → Prop) (items : List Item) (item : Item) : Prop :=
  ∃ before after, items = before ++ item :: after ∧ fits item ∧
    ∀ earlier ∈ before, ¬ fits earlier

/-- The first fitting item of a list is in the list. -/
theorem IsFirst.mem (first : IsFirst fits items item) : item ∈ items := by
  obtain ⟨before, after, rfl, _⟩ := first
  simp

/-- The first fitting item of a list fits. -/
theorem IsFirst.holds (first : IsFirst fits items item) : fits item := by
  obtain ⟨_, _, _, holds, _⟩ := first
  exact holds

/-- An item that fits is the first one when it is at the head. -/
theorem IsFirst.head (holds : fits item) : IsFirst fits (item :: items) item :=
  ⟨[], items, rfl, holds, fun _ member => absurd member List.not_mem_nil⟩

/-- An item that does not fit can stand before the first one that does. -/
theorem IsFirst.cons {other : Item} (unfit : ¬ fits other) (first : IsFirst fits items item) :
    IsFirst fits (other :: items) item := by
  obtain ⟨before, after, rfl, holds, none⟩ := first
  exact ⟨other :: before, after, rfl, holds, List.forall_mem_cons.mpr ⟨unfit, none⟩⟩

/-- A search finds an item exactly when it is the first one that fits, for every test that decides
what it is to fit. -/
theorem find?_eq_some_iff_isFirst {test : Item → Bool}
    (decides : ∀ item, test item = true ↔ fits item) :
    items.find? test = some item ↔ IsFirst fits items item := by
  rw [List.find?_eq_some_iff_append, decides]
  constructor
  · rintro ⟨holds, before, after, split, refused⟩
    refine ⟨before, after, split, holds, ?_⟩
    intro earlier member fitting
    have kept := refused earlier member
    simp [(decides earlier).mpr fitting] at kept
  · rintro ⟨before, after, split, holds, none⟩
    refine ⟨holds, before, after, split, ?_⟩
    intro earlier member
    have unfit := mt (decides earlier).mp (none earlier member)
    simpa using unfit

/-- There is a first item that fits when there is one at all. -/
theorem exists_isFirst (member : item ∈ items) (holds : fits item) :
    ∃ first, IsFirst fits items first := by
  classical
  have found : (items.find? fun item => decide (fits item)).isSome = true :=
    List.find?_isSome.mpr ⟨item, member, decide_eq_true holds⟩
  obtain ⟨first, same⟩ := Option.isSome_iff_exists.mp found
  exact ⟨first, (find?_eq_some_iff_isFirst fun _ => decide_eq_true_iff).mp same⟩

end First

/-- An attribute is the one that counts for a name: the first with that base name, up to the case
of letters. -/
def Annotates (attributes : List Attribute) (name : String) (attr : Attribute) : Prop :=
  IsFirst (fun attr => folded (attributeBaseName attr.name) = folded name) attributes attr

/-- The search for an attribute finds the first one of the name, and that one only. -/
theorem findAttribute?_eq_some_iff {attributes : List Attribute} {name : String}
    {attr : Attribute} :
    findAttribute? attributes name = some attr ↔ Annotates attributes name attr :=
  find?_eq_some_iff_isFirst fun _ => sameFolded_iff

namespace Attribute

variable {attr : Attribute} {key : String} {value : ArgumentValue}

/-- The first positional argument has a value. -/
def Begins (attr : Attribute) (value : ArgumentValue) : Prop :=
  ∃ argument, IsFirst (fun argument => argument.name = none) attr.arguments argument ∧
    argument.value = value

/-- The first argument of a name, up to the case of letters, has a value. -/
def Sets (attr : Attribute) (key : String) (value : ArgumentValue) : Prop :=
  ∃ argument, IsFirst (fun argument => ∃ name, argument.name = some name ∧
      folded name = folded key) attr.arguments argument ∧ argument.value = value

/-- The positional argument that is found is the first argument without a name. -/
theorem positional?_eq_some_iff : attr.positional? = some value ↔ attr.Begins value := by
  have unnamed (argument : Argument) : argument.name.isNone = true ↔ argument.name = none :=
    Option.isNone_iff_eq_none
  simp only [positional?, Option.map_eq_some_iff, find?_eq_some_iff_isFirst unnamed, Begins]

/-- The value that is found for a key is that of the first argument with this key. -/
theorem named?_eq_some_iff : attr.named? key = some value ↔ attr.Sets key value := by
  have named (argument : Argument) :
      (argument.name.any fun name => sameFolded name key) = true ↔
        ∃ name, argument.name = some name ∧ folded name = folded key := by
    simp [Option.any_eq_true, sameFolded_iff]
  simp only [named?, Option.map_eq_some_iff, find?_eq_some_iff_isFirst named, Sets]

end Attribute

end TypedClients
