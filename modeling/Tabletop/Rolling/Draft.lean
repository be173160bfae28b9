import Tabletop.Rolling.Evaluation

/-!
# Drafts of rolls

A draft is a roll whose modifiers may carry tags of no known kind. It is checked and rolled like the
roll of its known modifiers, up to the first unknown tag that still has dice to be applied to. Such a
tag cannot be written either, so neither a draft with one nor its rejection has a text.
-/

namespace Tabletop

/-- A modifier of a known kind, or a tag of no known kind with a value. -/
inductive DraftModifier
  | known (modifier : Modifier)
  | unknown (tag : Text) (value : Int)
  deriving DecidableEq

/-- A roll that may have unknown modifiers. -/
structure Draft where
  dice : DiceTerm
  modifiers : List DraftModifier
  deriving DecidableEq

namespace Draft

/-- The draft of a roll. -/
def ofRoll (roll : Roll) : Draft := ⟨roll.dice, roll.modifiers.map .known⟩

/-- The modifiers of known kinds in a list. -/
def knownModifiers (modifiers : List DraftModifier) : List Modifier :=
  modifiers.filterMap fun
    | .known modifier => some modifier
    | .unknown .. => none

/-- The known modifiers in front of the first unknown tag, and that tag. -/
def untilUnknown : List DraftModifier → List Modifier × Option Text
  | [] => ([], none)
  | .known modifier :: modifiers =>
    let (leading, tag) := untilUnknown modifiers
    (modifier :: leading, tag)
  | .unknown tag _ :: _ => ([], some tag)

/-- The roll that is left of a draft without its unknown modifiers. -/
def knownPart (draft : Draft) : Roll := ⟨draft.dice, knownModifiers draft.modifiers⟩

/-- The roll of a draft, if all its modifiers are known. -/
def roll? (draft : Draft) : Option Roll :=
  match untilUnknown draft.modifiers with
  | (_, some _) => none
  | (modifiers, none) => some ⟨draft.dice, modifiers⟩

/-- The first reason to refuse a draft. -/
def rejection? (draft : Draft) (settings : Settings) : Option Rejection :=
  draft.knownPart.rejection? settings

/-- Evaluate a draft, as far as its modifiers are known. -/
def evaluate {σ : Type} [RandomSource σ] (settings : Settings) (draft : Draft) : Play σ Outcome :=
  match untilUnknown draft.modifiers with
  | (modifiers, none) => Tabletop.evaluate settings ⟨draft.dice, modifiers⟩
  | (modifiers, some tag) =>
    if (draft.rejection? settings).isSome then Play.fail .unwritableModifier
    else do
      match ← Tabletop.evaluate settings ⟨draft.dice, modifiers⟩ with
      | none => return none
      | some _ => Play.fail (.unhandledModifier tag)

end Draft

end Tabletop
