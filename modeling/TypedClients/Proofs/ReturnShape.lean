import TypedClients.Proofs.TypeSyntax.Rendering
import TypedClients.Proofs.TypeSyntax.Token
import TypedClients.ReturnShape

/-!
# Return types and their shapes

A return type that can be generated is a name that is no keyword type, with at most one type
argument; a shape is that name and that argument. So a shape and the type it was read from are
written alike, and the shape is read again from what is written. Everything that is said about a
shape that was read rests on this one form of its type.

The flags of a shape are functions of its value here, so the clauses of `Describes` about them hold
of any shape: they say that the functions are the right ones, while `parts` and `written` are about
what was read.
-/

namespace TypedClients.ReturnShape

open CSharp

variable {text : String} {shape : ReturnShape}

/-- A shape of names only. -/
structure WellNamed (shape : ReturnShape) : Prop where
  wrapper : TypeSyntax.IsTypeName shape.wrapper.toList
  value : ∀ type ∈ shape.value, type.WellNamed

/-- A type has a shape exactly when it is a name, but no keyword type, with the value of the shape
as its only argument, if it has one. -/
theorem ofType_eq_ok {type : TypeSyntax} : ofType type = .ok shape ↔
    type = .named shape.wrapper shape.value.toList ∧ isPredefinedType shape.wrapper = false := by
  obtain ⟨wrapper, value⟩ := shape
  constructor
  · intro shaped
    cases type with
    | array _ => cases shaped
    | nullable _ => cases shaped
    | named name arguments =>
      cases usable : isPredefinedType name with
      | true => simp [ofType, usable] at shaped
      | false =>
        rcases arguments with _ | ⟨_, _ | ⟨_, _⟩⟩
        · obtain ⟨rfl, rfl⟩ := by simpa [ofType, usable] using shaped
          exact ⟨rfl, usable⟩
        · obtain ⟨rfl, rfl⟩ := by simpa [ofType, usable] using shaped
          exact ⟨rfl, usable⟩
        · simp [ofType, usable] at shaped
  · rintro ⟨rfl, usable⟩
    cases value with
    | none => simp [ofType, usable]
    | some value => simp [ofType, usable]

/-- A text has a shape exactly when it is read as a type that has it. -/
theorem resolve_eq_ok : resolve text = .ok shape ↔
    TypeSyntax.parse text = .ok (.named shape.wrapper shape.value.toList) ∧
      isPredefinedType shape.wrapper = false := by
  unfold resolve
  cases TypeSyntax.parse text with
  | error fault => simp
  | ok type => simpa using ofType_eq_ok

/-- A shape is written as the type that it is the shape of. -/
theorem render_eq (shape : ReturnShape) :
    shape.render = (TypeSyntax.named shape.wrapper shape.value.toList).render := by
  unfold render
  cases shape.value with
  | none => simp [TypeSyntax.render]
  | some value => simp [TypeSyntax.render, TypeSyntax.renderFollowing]

/-- Every shape that is read has names only. -/
theorem wellNamed_of_resolve (resolved : resolve text = .ok shape) : shape.WellNamed := by
  have wellNamed := (TypeSyntax.parse_eq_ok.mp (resolve_eq_ok.mp resolved).1).wellNamed
  cases wellNamed with
  | named rule inner => exact ⟨rule, by simpa using inner⟩

/-- A shape is read again from what it is written as. -/
theorem resolve_render (resolved : resolve text = .ok shape) :
    resolve shape.render = .ok shape := by
  obtain ⟨read, usable⟩ := resolve_eq_ok.mp resolved
  have wellNamed := (TypeSyntax.parse_eq_ok.mp read).wellNamed
  refine resolve_eq_ok.mpr ⟨?_, usable⟩
  rw [render_eq]
  exact TypeSyntax.parse_eq_ok.mpr wellNamed.spells

/-- The value of a shape is an array of some elements exactly when these are its elements. -/
theorem arrayElement?_eq_some_iff {element : TypeSyntax} :
    shape.arrayElement? = some element ↔ shape.value = some (.array element) := by
  unfold arrayElement?
  rcases shape.value with _ | _ | _ | _ <;> simp [TypeSyntax.arrayElement?]

/-- How a shape belongs to the type that it was read from: its name and its value are those of the
type, it is written like the type, and the flags say of the value what it is. -/
structure Describes (shape : ReturnShape) (type : TypeSyntax) : Prop where
  parts : type = .named shape.wrapper shape.value.toList
  written : shape.render = type.render
  parameterized : shape.isParameterized = true ↔ ∃ value, shape.value = some value
  array : shape.isArray = true ↔ ∃ element, shape.arrayElement? = some element
  /-- The outermost node of the value is the array of the elements. -/
  element : ∀ element, shape.arrayElement? = some element ↔ shape.value = some (.array element)

/-- A text has a shape exactly when it is read as a name that is no keyword type, with at most one
argument. The shape describes that type, and is read again from what it is written as: the normal
spelling of a return type is a return type, and has the same shape as any other spelling of it. -/
theorem resolve_coherent (text : String) :
    ((∃ shape, resolve text = .ok shape) ↔
        ∃ name arguments, TypeSyntax.parse text = .ok (.named name arguments) ∧
          name ∉ predefinedTypes ∧ arguments.length ≤ 1) ∧
      ∀ shape, resolve text = .ok shape →
        (∃ type, TypeSyntax.parse text = .ok type ∧ shape.Describes type) ∧
          resolve shape.render = .ok shape := by
  constructor
  · constructor
    · rintro ⟨shape, resolved⟩
      obtain ⟨read, usable⟩ := resolve_eq_ok.mp resolved
      refine ⟨_, _, read, by simpa [isPredefinedType] using usable, ?_⟩
      cases shape.value <;> simp
    · rintro ⟨name, arguments, read, usable, few⟩
      have short : arguments = arguments.head?.toList := by
        match arguments with
        | [] | [_] => rfl
        | _ :: _ :: _ => simp at few
      rw [short] at read
      exact ⟨⟨name, arguments.head?⟩,
        resolve_eq_ok.mpr ⟨read, by simpa [isPredefinedType] using usable⟩⟩
  · intro shape resolved
    have read := (resolve_eq_ok.mp resolved).1
    refine ⟨⟨_, read, ?_⟩, resolve_render resolved⟩
    exact {
      parts := rfl
      written := shape.render_eq
      parameterized := Option.isSome_iff_exists
      array := Option.isSome_iff_exists
      element := fun _ => arrayElement?_eq_some_iff }

/-- A wrapper with an alias, and an array of nullable arrays as its value. -/
def tableShape : ReturnShape where
  wrapper := "global::System.ValueTask"
  value := some (.array (.nullable (.array (.named "Row" []))))

/-- The shape of the table is resolved from a text with much white space, displayed in the normal
spelling, and resolved from this again. -/
theorem tableShape_coherent :
    resolve " global::System.ValueTask\t< Row[ ]? []>" = .ok tableShape ∧
      tableShape.render = "global::System.ValueTask<Row[]?[]>" ∧
      tableShape.isArray = true ∧ resolve tableShape.render = .ok tableShape := by
  have value : TypeSyntax.WellNamed (.array (.nullable (.array (.named "Row" [])))) :=
    .array (.nullable (.array (.named (by decide +kernel) (by simp))))
  have wellNamed : TypeSyntax.WellNamed (.named tableShape.wrapper tableShape.value.toList) :=
    .named (by decide +kernel) (by simp [tableShape, value])
  have resolved : resolve " global::System.ValueTask\t< Row[ ]? []>" = .ok tableShape :=
    resolve_eq_ok.mpr ⟨TypeSyntax.parse_eq_ok.mpr
      (wellNamed.spells.respaced (by decide +kernel)), by decide⟩
  obtain ⟨⟨type, _, described⟩, again⟩ := (resolve_coherent _).2 tableShape resolved
  refine ⟨resolved, by decide +kernel, ?_, again⟩
  exact described.array.mpr ⟨_, (described.element _).mpr rfl⟩

end TypedClients.ReturnShape
