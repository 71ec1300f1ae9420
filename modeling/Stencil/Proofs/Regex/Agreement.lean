import Stencil.Proofs.Path.Reads
import Stencil.Proofs.Regex.Literals
import Stencil.Slot.Lexer

/-!
# Literals in paths and in slots

A path has literals behind operators and a slot has them behind colons. In front of the same text
both are cut alike, and what is compiled is what was cut.
-/

namespace Stencil

open Regex (ClosesBehind IsCut literalOf literalEnd? compileLiteral compilePattern cutLiteral?)
open Text (byteLength)

/-- The right side of a comparison is next. -/
structure Path.Reader.AwaitsOperand (r : Path.Reader) : Prop where
  unfinished : r.done = false
  comparison : ∃ op, r.token = some (.operator op) ∧ op ≠ .isEmpty

/-- A modifier of the slot may be next. -/
def Slot.Lexer.awaitsModifier (l : Slot.Lexer) : Bool :=
  match l.last with
  | some (.reference _) | some (.format _) | some (.match_ _) | some (.substring _) => true
  | _ => false

namespace Regex

variable {r : Path.Reader} {l : Slot.Lexer} {cs literal rest : List Char}

theorem scan_slash (hr : r.AwaitsOperand) (hrest : r.gapped.rest = '/' :: cs) :
    r.gapped.scan = r.gapped.scanRegex := by
  obtain ⟨op, htoken, hop⟩ := hr.comparison
  have token : r.gapped.token = some (.operator op) := by
    rw [← htoken]
    unfold Path.Reader.gapped
    split <;> rfl
  rw [Path.Reader.scan_operator token hop, Path.Reader.scanOperand, hrest]
  rfl

theorem read_slash (hr : r.AwaitsOperand) (hrest : r.gapped.rest = '/' :: cs) :
    r.read = match cutLiteral? ('/' :: cs) with
      | some (literal, rest) => (.ok true, r.gapped.past .regex literal rest)
      | none => (.error (.unterminated .regex r.gapped.position), r.gapped) := by
  rw [Path.Reader.read_eq hr.unfinished, scan_slash hr hrest, Path.Reader.scanRegex, hrest]
  cases cutLiteral? ('/' :: cs) <;> rfl

theorem next_slash (hl : l.awaitsModifier = true) (hrest : l.skipSpaces.rest = ':' :: '/' :: cs) :
    l.next = l.skipSpaces.readMatch ('/' :: cs) := by
  have modifier : l.next = l.readModifier := by
    unfold Slot.Lexer.awaitsModifier at hl
    unfold Slot.Lexer.next
    rcases hlast : l.last with _ | t
    · rw [hlast] at hl
      cases hl
    · rw [hlast] at hl
      cases t <;> first | rfl | cases hl
  rw [modifier, Slot.Lexer.readModifier, hrest]
  rfl

/-- In front of the same text a path and a slot either both have no literal, since no slash closes
it, or have the same one. It goes to the first slash that closes it and the flags behind that. The
search by bytes ends there too, wherever the text stands, and what is compiled is the pattern with
the options of these flags. -/
theorem literal_cut_alike (hr : r.AwaitsOperand) (hrest : r.gapped.rest = '/' :: cs)
    (hl : l.awaitsModifier = true) (hlast : l.skipSpaces.rest = ':' :: '/' :: cs) :
    ((∀ pattern rest, ¬ ClosesBehind cs pattern rest) ∧
      r.read = (.error (.unterminated .regex r.gapped.position), r.gapped) ∧
      l.next = (.error (.malformed (l.skipSpaces.position + 1) .openRegex), l.skipSpaces) ∧
      ∀ text front, text.toList = front ++ '/' :: cs →
        literalEnd? text (byteLength front) = none) ∨
    ∃ pattern flags rest, IsCut cs pattern flags rest ∧
      r.read = (.ok true, r.gapped.past .regex (literalOf pattern flags) rest) ∧
      l.next = l.skipSpaces.emit (.match_ (String.ofList (literalOf pattern flags)))
        (':' :: literalOf pattern flags) rest ∧
      (∀ text front, text.toList = front ++ '/' :: cs →
        literalEnd? text (byteLength front) =
          some (byteLength front + byteLength (literalOf pattern flags))) ∧
      compileLiteral (String.ofList (literalOf pattern flags)) =
        compilePattern { caseless := 'i' ∈ flags, multiLine := 'm' ∈ flags, dotAll := 's' ∈ flags }
          pattern := by
  rw [read_slash hr hrest, next_slash hl hlast, Slot.Lexer.readMatch]
  rcases cutLiteral?_cases cs with ⟨hcut, unclosed⟩ | ⟨pattern, flags, rest, cut, hcut⟩
  · refine .inl ⟨unclosed, by rw [hcut], by rw [hcut], fun text front htext => ?_⟩
    rw [literalEnd?_behind htext, hcut]
    rfl
  · refine .inr ⟨pattern, flags, rest, cut, by rw [hcut], by rw [hcut], fun text front htext => ?_,
      compileLiteral_literalOf (slash_not_mem cut.named) pattern⟩
    rw [literalEnd?_behind htext, hcut]
    rfl

-- A slash behind a backslash, behind `=~` and behind the colon of a slot.
theorem literal_cut_alike_escaped :
    let cs := "a\\/b/i".toList
    let r : Path.Reader :=
      ⟨' ' :: '/' :: cs, 8, some (.operator .resembles), ['=', '~'], .operand, false, false⟩
    let l : Slot.Lexer := ⟨':' :: '/' :: cs, 2, some (.reference "x"), false⟩
    (r.AwaitsOperand ∧ r.gapped.rest = '/' :: cs ∧ l.awaitsModifier = true ∧
      l.skipSpaces.rest = ':' :: '/' :: cs) ∧
    ∃ pattern flags rest, IsCut cs pattern flags rest ∧
      r.read = (.ok true, r.gapped.past .regex (literalOf pattern flags) rest) ∧
      l.next = l.skipSpaces.emit (.match_ (String.ofList (literalOf pattern flags)))
        (':' :: literalOf pattern flags) rest := by
  intro cs r l
  have awaits : r.AwaitsOperand := ⟨rfl, .resembles, rfl, nofun⟩
  have behind : r.gapped.rest = '/' :: cs := by decide
  have modifier : l.awaitsModifier = true := rfl
  have colon : l.skipSpaces.rest = ':' :: '/' :: cs := by decide
  refine ⟨⟨awaits, behind, modifier, colon⟩, ?_⟩
  rcases literal_cut_alike awaits behind modifier colon with ⟨unclosed, -⟩ | found
  · exact absurd ⟨rfl, rfl⟩ (unclosed ['a', '\\', '/', 'b'] ['i'])
  · obtain ⟨pattern, flags, rest, cut, read, next, -⟩ := found
    exact ⟨pattern, flags, rest, cut, read, next⟩

end Regex

end Stencil
