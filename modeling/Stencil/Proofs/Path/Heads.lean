import Stencil.Proofs.Path.Failing

/-!
# Scans by the first character

What a scan does in front of a character, as a choice by that character.
-/

namespace Stencil.Path

namespace Reader

section

variable {r : Reader} {d : Char} {cs : List Char}

theorem scanMember_cons (hrest : r.rest = d :: cs) :
    r.scanMember =
      if d = '*' then .token (r.past .wildcard ['*'] cs)
      else if isNameStart d then
        .token (r.past .propertyName (d :: cs.takeWhile isNameChar) (cs.dropWhile isNameChar))
      else .nothing r := by
  unfold scanMember
  rw [hrest]
  split <;> simp_all

theorem scanEndFilter_cons (hrest : r.rest = d :: cs) :
    r.scanEndFilter =
      if d = ']' then .token ((r.past .endFilter [']'] cs).enter r.mode.closed)
      else .nothing r := by
  unfold scanEndFilter
  rw [hrest]
  split <;> simp_all

theorem scanEndExpression_cons (hrest : r.rest = d :: cs) :
    r.scanEndExpression =
      if d = ')' ∧ r.mode = .operand then
        .token ((r.past .endExpression [')'] cs).enter .bracket)
      else .nothing r := by
  unfold scanEndExpression
  rw [hrest]
  split <;> simp_all

theorem scanAfterNode_cons (hrest : r.rest = d :: cs) :
    r.scanAfterNode =
      if d = '.' then
        if cs.head? = some '.' then .token (r.past .deepScan ['.', '.'] cs.tail)
        else .token (r.past .child ['.'] cs)
      else if d = '[' then .token ((r.past .startFilter ['['] cs).enter r.mode.opened)
      else if r.mode = .operand then
        if d = ')' then r.scanEndExpression else r.scanOperator
      else .nothing r := by
  unfold scanAfterNode
  rw [hrest]
  split <;> simp_all [List.head?_eq_some_iff]

theorem scanFilterStart_cons (hrest : r.rest = d :: cs) :
    r.scanFilterStart =
      if d = '\'' then r.scanString
      else if d = ':' then .token (r.past .slice [':'] cs)
      else if d = '*' then .token (r.past .wildcard ['*'] cs)
      else if d = '?' ∧ cs.head? = some '(' then
        if r.mode.inExpression then .fault (.malformed r.position .nestedFilter) r
        else .token ((r.past .startExpression ['?', '('] cs.tail).enter .operand)
      else if isNumberStart d then r.scanNumber false
      else .nothing r := by
  unfold scanFilterStart
  rw [hrest]
  split <;> simp_all [List.head?_eq_some_iff]

theorem scanListItem_cons (hrest : r.rest = d :: cs) :
    r.scanListItem =
      if d = '\'' then r.scanString
      else if isNumberStart d then r.scanNumber true
      else .nothing r := by
  unfold scanListItem
  rw [hrest]
  split <;> simp_all

theorem scanListStart_cons (hrest : r.rest = d :: cs) :
    r.scanListStart =
      if d = ']' then .token ((r.past .endList [']'] cs).enter .operand) else r.scanListItem := by
  unfold scanListStart
  rw [hrest]
  split <;> simp_all

theorem scanFurther_cons (hrest : r.rest = d :: cs) (isNumber : Bool) :
    r.scanFurther isNumber =
      if r.mode = .list then r.scanListItem
      else if isNumber then if isNumberStart d then r.scanNumber false else .nothing r
      else if d = '\'' then r.scanString
      else .nothing r := by
  unfold scanFurther
  rw [hrest]
  split
  · rfl
  · split <;> simp_all

theorem scanOperandPath_cons (hrest : r.rest = d :: cs) :
    r.scanOperandPath =
      if d = '@' then .token (r.past .current ['@'] cs)
      else if d = '$' then .token (r.past .root ['$'] cs)
      else .nothing r := by
  unfold scanOperandPath
  rw [hrest]
  split <;> simp_all

theorem scanOperand_cons (hrest : r.rest = d :: cs) :
    r.scanOperand =
      if d = '@' ∨ d = '$' then r.scanOperandPath
      else if d = '\'' then r.scanString
      else if d = '/' then r.scanRegex
      else if d = '[' then .token ((r.past .startList ['['] cs).enter .list)
      else if isNumberStart d then r.scanNumber true
      else .nothing r := by
  unfold scanOperand
  rw [hrest]
  split <;> simp_all

theorem scanRoot_cons (hrest : r.rest = d :: cs) :
    r.scanRoot = if d = '$' then .token (r.past .root ['$'] cs) else .nothing r := by
  unfold scanRoot
  rw [hrest]
  split <;> simp_all

theorem scanAfterLiteral_cons (hrest : r.rest = d :: cs) (isNumber : Bool) :
    r.scanAfterLiteral isNumber =
      if r.mode = .list then
        if d = ',' then (r.pastComma cs).scanFurther isNumber
        else if d = ']' then .token ((r.past .endList [']'] cs).enter .operand)
        else .nothing r
      else if r.mode.inBracket then
        if d = ',' then (r.pastComma cs).scanFurther isNumber
        else if d = ':' ∧ isNumber then .token (r.past .slice [':'] cs)
        else r.scanEndFilter
      else r.scanEndExpression := by
  have same : (r.pastComma cs).mode = r.mode := rfl
  unfold scanAfterLiteral scanFurther
  rw [hrest, same]
  split
  · split <;> simp_all
  · split
    · split
      · next heq =>
        cases heq
        rfl
      · simp_all [scanEndFilter]
      · simp_all
    · rfl

end

end Reader

end Stencil.Path
