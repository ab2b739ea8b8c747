import FieldSchema.CanonicalType
import FieldSchema.Text.Quoted

/-!
# Texts in definitions

Where a definition holds a text, it may hold a category instead.  A category counts as its label:
it is compared, searched and joined as that text.  It is still given out as a category, and
diagnostics show it by its name.

* `TextValue`: a text or a category.
* `TextValue.text`, `TextValue.displayed`, `TextValue.written`: what it counts as, and the two
  ways to show it.
-/

namespace FieldSchema

/-- A text, or a category in the place of one. -/
inductive TextValue where
  | plain (s : String)
  | category (t : CanonicalType)
  deriving DecidableEq, Repr, Inhabited

namespace TextValue

/-- The text that it counts as. -/
def text : TextValue → String
  | .plain s => s
  | .category t => t.label

/-- How diagnostics show it. -/
def displayed : TextValue → String
  | .plain s => s
  | .category t => t.displayed

/-- How it is written. -/
def written : TextValue → String
  | .plain s => Text.quote s
  | .category t => t.written

instance : Coe String TextValue := ⟨.plain⟩

@[simp] theorem text_plain (s : String) : (plain s).text = s := rfl

@[simp] theorem text_category (t : CanonicalType) : (category t).text = t.label := rfl

@[simp] theorem displayed_plain (s : String) : (plain s).displayed = s := rfl

/-- What is kept under the text of a name. -/
def lookup {α : Type} (text : String) : List (TextValue × α) → Option α
  | [] => none
  | (name, a) :: rest => if name.text = text then some a else lookup text rest

@[simp] theorem lookup_nil {α : Type} (text : String) :
    lookup text ([] : List (TextValue × α)) = none := rfl

theorem lookup_cons {α : Type} (text : String) (name : TextValue) (a : α)
    (rest : List (TextValue × α)) :
    lookup text ((name, a) :: rest) = if name.text = text then some a else lookup text rest := rfl

/-- Of names that differ each is found. -/
theorem lookup_of_mem {α : Type} {fields : List (TextValue × α)} {name : TextValue}
    {a : α} (hdistinct : (fields.map fun field => field.1.text).Nodup) (h : (name, a) ∈ fields) :
    lookup name.text fields = some a := by
  induction fields with
  | nil => cases h
  | cons entry rest ih =>
    obtain ⟨hfresh, hrest⟩ := List.nodup_cons.mp hdistinct
    obtain ⟨name', a'⟩ := entry
    rw [lookup_cons]
    rcases List.mem_cons.mp h with hhead | htail
    · obtain ⟨rfl, rfl⟩ := Prod.mk.inj hhead
      rw [if_pos rfl]
    · have hother : name'.text ≠ name.text := fun hsame =>
        hfresh (List.mem_map.mpr ⟨(name, a), htail, hsame.symm⟩)
      rw [if_neg hother]
      exact ih hrest htail

end TextValue

end FieldSchema
