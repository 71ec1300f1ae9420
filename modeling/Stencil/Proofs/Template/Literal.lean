import Stencil.Proofs.Slot.Escaping
import Stencil.Proofs.Template.Streaming

/-!
# Literal documents

A document with no array template and no string that reads as a boolean expands to itself, in every
context, once the braces of its strings are doubled.
-/

namespace Stencil.Template

mutual

/-- The document with the braces of its strings doubled. The names of members stay as they are. -/
def quote : Json → Json
  | .str text => .str (Slot.escape text)
  | .arr items => .arr (quoteItems items)
  | .obj ms => .obj (quoteMembers ms)
  | v => v

def quoteItems : List Json → List Json
  | [] => []
  | v :: rest => quote v :: quoteItems rest

def quoteMembers : Json.Members → Json.Members
  | [] => []
  | (name, v) :: rest => (name, quote v) :: quoteMembers rest

end

/-- What may stand in an array without being repeated. -/
def IsItem (v : Json) : Prop :=
  ∀ ms, v = .obj ms → ¬ ("path" ∈ Entries.names ms ∧ "template" ∈ Entries.names ms)

/-- Strings are neither `true` nor `false`, in any case and with blanks around, and no item is an
array template. -/
inductive Literal : Json → Prop where
  | null : Literal .null
  | bool (b : Bool) : Literal (.bool b)
  | num (n : JsonNumber) : Literal (.num n)
  | str {text : String} :
    (Text.trim text).toLower ≠ "true" → (Text.trim text).toLower ≠ "false" → Literal (.str text)
  | arr {items : List Json} :
    (∀ v ∈ items, Literal v) → (∀ v ∈ items, IsItem v) → Literal (.arr items)
  | obj {ms : Json.Members} :
    (Entries.names ms).Nodup → (∀ m ∈ ms, Literal m.2) → Literal (.obj ms)

theorem names_quoteMembers (ms : Json.Members) :
    Entries.names (quoteMembers ms) = Entries.names ms := by
  induction ms with
  | nil => rfl
  | cons m ms ih => exact congrArg (m.1 :: ·) ih

theorem mem_names_of_find? {ms : Json.Members} {name : String} {v : Json}
    (h : Entries.find? ms name = some v) : name ∈ Entries.names ms := by
  induction ms with
  | nil => simp [Entries.find?] at h
  | cons m ms ih =>
    rw [Entries.find?] at h
    split at h
    · next hk => simp [Entries.names, hk]
    · have := ih h
      simp_all [Entries.names]

theorem IsItem.arrayTemplate? {ms : Json.Members} (h : IsItem (.obj ms)) :
    arrayTemplate? (quoteMembers ms) = none := by
  unfold Template.arrayTemplate?
  split
  · next hpath htemplate =>
    have path := mem_names_of_find? hpath
    have template := mem_names_of_find? htemplate
    rw [names_quoteMembers] at path template
    exact absurd ⟨path, template⟩ (h ms rfl)
  · rfl

section

variable {registry : Slot.Registry} {scope : Scope} {jumps : Nat}

theorem leafValue_escape {text : String} (htrue : (Text.trim text).toLower ≠ "true")
    (hfalse : (Text.trim text).toLower ≠ "false") :
    leafValue registry scope (.str (Slot.escape text)) = .ok (.str text) := by
  have noFlag : flag? text = none := by simp [flag?, htrue, hfalse]
  simp only [leafValue, Slot.render_escape, noFlag]

theorem outputElement_quote {v : Json} (hitem : IsItem v)
    (h : output registry jumps (quote v) scope = .ok v) :
    outputElement registry jumps (quote v) scope = .ok [v] := by
  cases v with
  | obj ms =>
    rw [quote] at h ⊢
    rw [outputElement_obj, hitem.arrayTemplate?, h]
    rfl
  | null | bool | num | str | arr =>
    simp only [quote] at h ⊢
    simp only [outputElement, h]
    rfl

theorem outputElements_quote {items : List Json} (hitems : ∀ v ∈ items, IsItem v)
    (h : ∀ v ∈ items, output registry jumps (quote v) scope = .ok v) :
    outputElements registry jumps (quoteItems items) scope = .ok items := by
  induction items with
  | nil => simp only [quoteItems, outputElements]
  | cons v items ih =>
    simp only [List.forall_mem_cons] at hitems h
    rw [quoteItems, outputElements, outputElement_quote hitems.1 h.1, ih hitems.2 h.2]
    rfl

theorem outputMembers_quote {ms : Json.Members}
    (h : ∀ m ∈ ms, output registry jumps (quote m.2) scope = .ok m.2) :
    outputMembers registry jumps (quoteMembers ms) scope = .ok ms := by
  induction ms with
  | nil => simp only [quoteMembers, outputMembers]
  | cons m ms ih =>
    simp only [List.forall_mem_cons] at h
    rw [quoteMembers, outputMembers, h.1, ih h.2]
    rfl

theorem Literal.output {v : Json} (h : Literal v) :
    output registry jumps (quote v) scope = .ok v := by
  induction h with
  | null | bool | num => simp only [quote, Template.output, leafValue]
  | str htrue hfalse =>
    simp only [quote, Template.output]
    exact leafValue_escape htrue hfalse
  | arr _ hitems ih =>
    rw [quote, Template.output, outputElements_quote hitems ih]
    rfl
  | @obj ms hnames _ ih =>
    have distinct : (Entries.names (quoteMembers ms)).Nodup := by rwa [names_quoteMembers]
    rw [quote, output_obj distinct, outputMembers_quote ih]
    rfl

end

/-- A literal document survives expansion, whatever stands around it. -/
theorem expandToValue_quote {v : Json} (h : Literal v) (registry : Slot.Registry)
    (ctx : Parameter) :
    expandToValue registry (quote v) ctx = .ok v := by
  rw [expandToValue_eq_output]
  exact h.output

/-- Braces in a name and in a string, and a `path` without a `template`. -/
def braced : Json :=
  .obj [("\x7bk\x7d", .arr [.str "\x7bx\x7d\x7d", .null, .obj [("path", .int 1)]]),
    ("b", .bool true)]

theorem expandToValue_quote_braced : Literal braced ∧
    expandToValue .builtin (quote braced) (.store .empty) = .ok braced := by
  have text : Literal (.str "\x7bx\x7d\x7d") := .str (by decide +kernel) (by decide +kernel)
  have path : Literal (.obj [("path", .int 1)]) := by
    apply Literal.obj (by decide)
    simp only [List.forall_mem_singleton]
    exact .num _
  have items : Literal (.arr [.str "\x7bx\x7d\x7d", .null, .obj [("path", .int 1)]]) := by
    apply Literal.arr
    · rintro v (_ | ⟨_, _ | ⟨_, _ | ⟨_, ⟨⟩⟩⟩⟩)
      · exact text
      · exact .null
      · exact path
    · simp [IsItem, Entries.names]
  have literal : Literal braced := by
    apply Literal.obj (by decide)
    rintro m (_ | ⟨_, _ | ⟨_, ⟨⟩⟩⟩)
    · exact items
    · exact .bool true
  exact ⟨literal, expandToValue_quote literal .builtin (.store .empty)⟩

end Stencil.Template
