import Mathlib.Tactic.SplitIfs
import TypedClients.Defaults
import TypedClients.Proofs.Text.Blank

/-!
# Symbols and thresholds

What a symbol names and what a number of milliseconds is cut to, stated on the texts and numbers
themselves.

`Names` and `Clamped` are relations, for which the functions that compute are shown to be the only
choice. The theorems about options are stated with them.
-/

namespace TypedClients

open Text

/-- A symbol names a serializer: its last dotted segment, without white space around it, is the
name of that serializer up to the case of ASCII letters. -/
def Names (symbol : String) (serializer : Serializer) : Prop :=
  ∃ segment core, LastPiece '.' symbol.toList segment ∧ Trims segment core ∧
    folded (String.ofList core) = folded serializer.name

/-- A threshold is a number of milliseconds cut to the numbers of 32 bits. -/
def Clamped (milliseconds : Int64) (threshold : Nat) : Prop :=
  (threshold : Int) = max 0 (min milliseconds.toInt (UInt32.size - 1))

/-- The threshold that is made of a number of milliseconds is the number cut at both ends. -/
theorem clampThreshold_eq_iff {milliseconds : Int64} {threshold : Nat} :
    clampThreshold milliseconds = threshold ↔ Clamped milliseconds threshold := by
  unfold clampThreshold Clamped maxThreshold UInt32.size
  omega

/-- A symbol names a mode, in the way in which it names a serializer. -/
def NamesMode (symbol : String) (mode : SerializationMode) : Prop :=
  ∃ segment core, LastPiece '.' symbol.toList segment ∧ Trims segment core ∧
    folded (String.ofList core) = folded mode.name

/-- A symbol has the mode that it names. -/
theorem ofSymbol?_eq_some_iff {symbol : String} {mode : SerializationMode} :
    SerializationMode.ofSymbol? symbol = some mode ↔ NamesMode symbol mode := by
  have named : NamesMode symbol mode ↔
      folded (String.ofList (trimBlanks (afterLast '.' symbol.toList))) = folded mode.name := by
    constructor
    · rintro ⟨segment, core, last, trims, same⟩
      rwa [afterLast_eq_iff.mpr last, trimBlanks_eq_iff.mpr trims]
    · intro same
      exact ⟨_, _, afterLast_eq_iff.mp rfl, trimBlanks_eq_iff.mp rfl, same⟩
  rw [named]
  unfold SerializationMode.ofSymbol?
  simp only [sameFolded_iff]
  -- From here on only the folded spelling counts.
  generalize folded (String.ofList (trimBlanks (afterLast '.' symbol.toList))) = spelling
  constructor
  · intro found
    split_ifs at found with inherit newtonsoft systemTextJson custom
    · cases found
      exact inherit.trans (by decide)
    · cases found
      exact newtonsoft.trans (by decide)
    · cases found
      exact systemTextJson.trans (by decide)
    · cases found
      exact custom.trans (by decide)
  · rintro rfl
    cases mode with
    | inherit => decide
    | use serializer => cases serializer <;> decide

/-- A symbol has the mode of a serializer when it names it. -/
theorem ofSymbol?_eq_use_iff {symbol : String} {serializer : Serializer} :
    SerializationMode.ofSymbol? symbol = some (.use serializer) ↔ Names symbol serializer :=
  ofSymbol?_eq_some_iff

/-- The serializer that a mode chooses, unless it leaves the choice to the scope around it. -/
def SerializationMode.serializer? : SerializationMode → Option Serializer
  | .inherit => none
  | .use serializer => some serializer

/-- A mode resolves to its own serializer, or to the outer one when it has none. -/
theorem SerializationMode.resolve_eq (mode : SerializationMode) (outer : Serializer) :
    mode.resolve outer = mode.serializer?.getD outer := by
  cases mode <;> rfl

/-- A mode has a serializer of its own when it says which one to use. -/
theorem SerializationMode.serializer?_eq_some_iff {mode : SerializationMode}
    {serializer : Serializer} : mode.serializer? = some serializer ↔ mode = .use serializer := by
  cases mode <;> simp [serializer?]

end TypedClients
