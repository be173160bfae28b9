import Mathlib.Data.List.Induction
import Tabletop.Settings.EnvFile

/-!
# What a file of variables defines

The lines of a file are taken one after the other. A line gives its name the value that is written
there, with each reference replaced by what its name stands for before that line. As long as different
names have different keys, the value found for a name is the one that the last line of that name gives,
whatever the lines before it and the lines of other names are. A reference reaches through the lines
before: it stands for what the last of these that has exactly this name gives, in turn with its
references, or else for a variable of the environment.
-/

namespace Tabletop

/-! ## The last of a name -/

section LastNamed

variable {α : Type} {key : Text → Text} {nameOf : α → Text} {name : Text} {items others front : List α}
  {item : α}

end LastNamed

/-! ## Looking up a name by its key -/

namespace Bindings

variable {α : Type} {key : Text → Text} {name query : Text} {value : α} {bindings : Bindings α}

/-- All bindings with the key of the name are bindings of exactly this name. -/
def SpelledAlike (key : Text → Text) (name : Text) (bindings : Bindings α) : Prop :=
  ∀ other ∈ bindings.map Prod.fst, sameName key other name = true → other = name

/-- Each key is bound once. -/
def Distinct (key : Text → Text) (bindings : Bindings α) : Prop :=
  (bindings.map Prod.fst).Pairwise fun a b => sameName key a b = false

/-- Binding a name adds it behind the others if it is not among them. -/
theorem map_fst_put (name : Text) (value : α) (bindings : Bindings α) :
    (put name value bindings).map Prod.fst =
      if name ∈ bindings.map Prod.fst then bindings.map Prod.fst else bindings.map Prod.fst ++ [name] := by
  induction bindings with
  | nil => rfl
  | cons binding rest ih =>
    obtain ⟨other, old⟩ := binding
    by_cases hother : other = name
    · simp [put, hother]
    · have hname : name ≠ other := fun h => hother h.symm
      simp only [put, beq_iff_eq, hother, if_false, List.map_cons, ih, List.mem_cons, hname, false_or]
      split <;> rfl

/-- Binding one more name leaves each key bound once if no other name has the key of this one. -/
theorem Distinct.put (h : Distinct key bindings) (hname : SpelledAlike key name bindings) (value : α) :
    Distinct key (put name value bindings) := by
  rw [Distinct, map_fst_put]
  split
  next => exact h
  next hnew =>
    refine List.pairwise_append.mpr ⟨h, List.pairwise_singleton _ _, fun other hother last hlast => ?_⟩
    rw [List.mem_singleton.mp hlast]
    by_contra hsame
    exact hnew (hname other hother (by simpa using hsame) ▸ hother)

end Bindings

/-! ## Line after line -/

namespace EnvFile

variable {key : Text → Text} {expander : Bindings (Option Text) → Text → Text}
  {environment others : Bindings Text} {lines front front' back : List Entry} {line : Entry} {name : Text}

/-- What a line gives to its name when these lines stand before it. -/
def given (expander : Bindings (Option Text) → Text → Text) (environment : Bindings Text)
    (front : List Entry) (line : Entry) : Option Text :=
  line.value.map (expander (scope environment (define expander environment front)))

end EnvFile

end Tabletop
