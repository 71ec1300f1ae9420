import Stencil.Proofs.Path.Faults
import Stencil.Proofs.Path.Language

/-!
# Steps one behind the other

What the grammar takes from the start of a text it also takes where more text follows, unless that
text goes on with a name. So texts of steps can be put together, and their steps are those of the
texts in order.
-/

namespace Stencil.Path

/-! ## Constructions in longer texts -/

/-- A construction takes the same from a text with more text behind it. -/
def Extends {α : Type} (more : List Char) (item : Construction α) : Prop :=
  ∀ a cs rest, item a cs rest → item a (cs ++ more) (rest ++ more)

theorem goesOn_append {rest more : List Char} (h : goesOn rest = false)
    (hmore : goesOn more = false) : goesOn (rest ++ more) = false := by
  cases rest with
  | nil => exact hmore
  | cons c cs => exact h

section

variable {L : Lexicon} {more cs rest : List Char} (hmore : goesOn more = false)

include hmore

theorem Lexicon.Ends.extend {t : Token} (h : L.Ends rest t) : L.Ends (rest ++ more) t := by
  cases t with
  | propertyName => exact fun hL => goesOn_append (h hL) hmore
  | operator op => exact fun hop => goesOn_append (h hop) hmore
  | _ => trivial

theorem Word.extend {inside : Bool} {t : Token} {lexeme : List Char}
    (h : Word L inside t lexeme cs rest) : Word L inside t lexeme (cs ++ more) (rest ++ more) := by
  obtain ⟨text, ⟨gap, rfl, hgap⟩, hw, hends⟩ := h
  have spaced : Spaced inside text (gap ++ (text ++ rest) ++ more) (rest ++ more) :=
    ⟨gap, by simp only [List.append_assoc], hgap⟩
  exact ⟨text, spaced, hw, hends.extend hmore⟩

theorem Mark.extend {inside : Bool} {t : Token} (h : Mark L inside t cs rest) :
    Mark L inside t (cs ++ more) (rest ++ more) := by
  obtain ⟨lexeme, hword⟩ := h
  exact ⟨lexeme, hword.extend hmore⟩

end

section

variable {α : Type} {more : List Char} {item : Construction α}

theorem Extends.many (h : Extends more item) : Extends more (Many item) := by
  intro as cs rest hmany
  induction hmany with
  | nil => exact .nil _
  | cons ha _ ih => exact .cons (h _ _ _ ha) ih

theorem Extends.further (h : Extends more item) : Extends more (Further item) := by
  rintro a cs rest ⟨mid, ⟨gap, rfl, hgap⟩, ha⟩
  have comma : Spaced true [','] (gap ++ ([','] ++ mid) ++ more) (mid ++ more) :=
    ⟨gap, by simp only [List.append_assoc], hgap⟩
  exact ⟨mid ++ more, comma, h _ _ _ ha⟩

theorem Extends.listed (h : Extends more item) : Extends more (Listed item) := by
  intro as cs rest hlisted
  cases hlisted with
  | mk ha has => exact .mk (h _ _ _ ha) (h.further.many _ _ _ has)

theorem Extends.maybe (h : Extends more item) : Extends more (Maybe item) := by
  intro a cs rest hmaybe
  cases hmaybe with
  | none => exact .none _
  | some ha => exact .some (h _ _ _ ha)

end

section

variable {L : Lexicon} {more : List Char} (hmore : goesOn more = false)

include hmore

theorem isString_extends : Extends more (IsString L) := by
  rintro s cs rest ⟨lexeme, hword, hs⟩
  exact ⟨lexeme, hword.extend hmore, hs⟩

theorem isIndex_extends : Extends more (IsIndex L) := by
  rintro i cs rest ⟨lexeme, hword, hi⟩
  exact ⟨lexeme, hword.extend hmore, hi⟩

theorem isDecimal_extends : Extends more (IsDecimal L) := by
  rintro d cs rest ⟨lexeme, hword, hd⟩
  exact ⟨lexeme, hword.extend hmore, hd⟩

theorem isBracket_extends : Extends more (IsBracket L) := by
  have index := isIndex_extends (L := L) hmore
  intro s cs rest h
  cases h with
  | names hs he =>
    exact .names ((isString_extends hmore).listed _ _ _ hs) (he.extend hmore)
  | index hi he => exact .index (index _ _ _ hi) (he.extend hmore)
  | indices hs he => exact .indices (index.listed _ _ _ hs) (he.extend hmore)
  | slice ha hc hb he =>
    exact .slice (index.maybe _ _ _ ha) (hc.extend hmore) (index.maybe _ _ _ hb)
      (he.extend hmore)
  | wildcard hw he => exact .wildcard (hw.extend hmore) (he.extend hmore)

theorem isSelector_extends (inside : Bool) : Extends more (IsSelector L inside) := by
  intro s cs rest h
  cases h with
  | child hd hn => exact .child (hd.extend hmore) (hn.extend hmore)
  | children hd hw => exact .children (hd.extend hmore) (hw.extend hmore)
  | deep hd hn => exact .deep (hd.extend hmore) (hn.extend hmore)
  | descendants hd hw => exact .descendants (hd.extend hmore) (hw.extend hmore)
  | bracket ho hb => exact .bracket (ho.extend hmore) (isBracket_extends hmore _ _ _ hb)

theorem isReference_extends : Extends more (IsReference L) := by
  intro p cs rest h
  cases h with
  | mk ho hs => exact .mk (ho.extend hmore) ((isSelector_extends hmore true).many _ _ _ hs)

theorem isSide_extends : Extends more (IsSide L) := by
  have string := isString_extends (L := L) hmore
  have decimal := isDecimal_extends (L := L) hmore
  intro side cs rest h
  cases h with
  | reference hp => exact .reference (isReference_extends hmore _ _ _ hp)
  | number hd => exact .number (decimal _ _ _ hd)
  | string hs => exact .string (string _ _ _ hs)
  | regex hw => exact .regex (hw.extend hmore)
  | empty ho he => exact .empty (ho.extend hmore) (he.extend hmore)
  | strings ho hs he =>
    exact .strings (ho.extend hmore) (string.listed _ _ _ hs) (he.extend hmore)
  | numbers ho hs he =>
    exact .numbers (ho.extend hmore) (decimal.listed _ _ _ hs) (he.extend hmore)

theorem isCondition_extends : Extends more (IsCondition L) := by
  have reference := isReference_extends (L := L) hmore
  intro c cs rest h
  cases h with
  | isTruthy hl he => exact .isTruthy (reference _ _ _ hl) (he.extend hmore)
  | isEmpty hl ho he =>
    exact .isEmpty (reference _ _ _ hl) (ho.extend hmore) (he.extend hmore)
  | compare hl hne ho hr he =>
    exact .compare (reference _ _ _ hl) hne (ho.extend hmore) (isSide_extends hmore _ _ _ hr)
      (he.extend hmore)

theorem isPathStep_extends : Extends more (IsPathStep L) := by
  intro s cs rest h
  cases h with
  | select hs => exact .select (isSelector_extends hmore false _ _ _ hs)
  | filter ho hx hc he =>
    exact .filter (ho.extend hmore) (hx.extend hmore) (isCondition_extends hmore _ _ _ hc)
      (he.extend hmore)

end

/-! ## Texts of steps -/

/-- The text is a row of steps, as they follow the dollar sign of a path. -/
def IsSteps (L : Lexicon) (text : String) (steps : List PathStep) : Prop :=
  Many (IsPathStep L) steps text.toList []

/-- The text is an expression, as it stands in the parentheses of a filter. -/
def IsExpression (L : Lexicon) (text : String) (c : Condition) : Prop :=
  IsCondition L c (text.toList ++ [')']) []

/-- The text is a name, as it follows a dot. -/
def IsPropertyName (text : String) : Prop :=
  ∃ c cs, text.toList = c :: cs ∧ isNameStart c = true ∧ ∀ d ∈ cs, isNameChar d = true

theorem isPropertyName_iff (text : String) :
    (match text.toList with
      | c :: cs => isNameStart c && cs.all isNameChar
      | [] => false) = true ↔ IsPropertyName text := by
  unfold IsPropertyName
  cases text.toList with
  | nil => simp
  | cons c cs =>
    rw [Bool.and_eq_true, List.all_eq_true]
    constructor
    · intro h
      exact ⟨c, cs, rfl, h⟩
    · rintro ⟨_, _, same, h⟩
      cases same
      exact h

instance (text : String) : Decidable (IsPropertyName text) :=
  decidable_of_decidable_of_iff (isPropertyName_iff text)

theorem Many.append {α : Type} {item : Construction α} {as bs : List α} {cs mid rest : List Char}
    (ha : Many item as cs mid) (hb : Many item bs mid rest) : Many item (as ++ bs) cs rest := by
  induction ha with
  | nil => exact hb
  | cons h _ ih => exact .cons h (ih hb)

section

variable {L : Lexicon} {s t : String} {ss ts : List PathStep}

theorem IsSelector.goesOn_eq {sel : Selector} {cs rest : List Char}
    (h : IsSelector L false sel cs rest) : goesOn cs = false := by
  rw [← stops_name_iff]
  cases h with
  | child hd | children hd => exact hd.stops rfl rfl rfl
  | deep hd | descendants hd => exact hd.stops rfl rfl rfl
  | bracket ho => exact ho.stops rfl rfl rfl

theorem IsPathStep.goesOn_eq {step : PathStep} {cs rest : List Char}
    (h : IsPathStep L step cs rest) : goesOn cs = false := by
  cases h with
  | select hs => exact hs.goesOn_eq
  | filter ho => exact (stops_name_iff _).1 (ho.stops rfl rfl rfl)

theorem IsSteps.goesOn_eq (h : IsSteps L s ss) : goesOn s.toList = false := by
  unfold IsSteps at h
  generalize s.toList = cs at h
  cases h with
  | nil => rfl
  | cons hstep _ => exact hstep.goesOn_eq

theorem IsSteps.append (hs : IsSteps L s ss) (ht : IsSteps L t ts) :
    IsSteps L (s ++ t) (ss ++ ts) := by
  have front := (isPathStep_extends ht.goesOn_eq).many _ _ _ hs
  unfold IsSteps
  rw [String.toList_append]
  exact front.append ht

theorem IsPath.append {path : String} (hpath : IsPath L path ss) (ht : IsSteps L t ts) :
    IsPath L (path ++ t) (ss ++ ts) := by
  obtain ⟨cs, hroot, hsteps⟩ := hpath
  have front := (isPathStep_extends ht.goesOn_eq).many _ _ _ hsteps
  refine ⟨cs ++ t.toList, ?_, front.append ht⟩
  rw [String.toList_append]
  exact hroot.extend ht.goesOn_eq

theorem IsSteps.isPath {path : String} (hpath : path.toList = '$' :: s.toList)
    (h : IsSteps L s ss) : IsPath L path ss := by
  refine ⟨s.toList, ?_, h⟩
  rw [hpath]
  exact .here ['$'] _ rfl trivial

end

/-! ## Texts in one reading -/

section

variable {cs mid rest rest' : List Char}

theorem IsPathStep.unique {a b : PathStep} (ha : IsPathStep .longest a cs rest)
    (hb : IsPathStep .longest b cs rest') : a = b ∧ rest = rest' := by
  -- Reading is a function and misses no step of the grammar.
  have opened : (String.ofList ('$' :: cs)).toList = '$' :: cs := by simp
  obtain ⟨r, -, hr, rfl⟩ := reads_start opened
  have node : r.AtNode .path := ⟨_, hr, rfl, nofun⟩
  obtain ⟨u, s, hread, -, hs, -, rfl⟩ := readPathStep_complete node ha
  obtain ⟨u', s', hread', -, hs', -, rfl⟩ := readPathStep_complete node hb
  rw [hread] at hread'
  cases hread'
  rw [hs] at hs'
  cases hs'
  exact ⟨rfl, rfl⟩

theorem IsPathStep.not_nil {a : PathStep} : ¬ IsPathStep .longest a [] rest := by
  intro ha
  have opened : "$".toList = ['$'] := rfl
  obtain ⟨r, -, hr, hrest⟩ := reads_start opened
  have node : r.AtNode .path := ⟨_, hr, rfl, nofun⟩
  rw [← hrest] at ha
  obtain ⟨u, s, hread, -⟩ := readPathStep_complete node ha
  obtain ⟨t, hend⟩ := reads_end_path node hrest
  rw [hread] at hend
  cases hend

theorem steps_left {ss ts : List PathStep} (hs : Many (IsPathStep .longest) ss cs mid)
    (ht : Many (IsPathStep .longest) ts cs []) :
    ∃ us, Many (IsPathStep .longest) us mid [] := by
  induction hs generalizing ts with
  | nil => exact ⟨ts, ht⟩
  | cons ha _ ih =>
    cases ht with
    | nil => exact absurd ha IsPathStep.not_nil
    | cons hb hmore =>
      obtain ⟨rfl, rfl⟩ := ha.unique hb
      exact ih hmore

/-- What makes a path longer is a row of steps, unless it goes on with the last name. -/
theorem IsPath.steps_behind {path t : String} {ss ts : List PathStep}
    (hpath : IsPath .longest path ss) (ht : goesOn t.toList = false)
    (hlong : IsPath .longest (path ++ t) ts) : ∃ us, IsSteps .longest t us := by
  obtain ⟨cs, hroot, hsteps⟩ := hpath
  obtain ⟨ds, hroot', hsteps'⟩ := hlong
  have front := (isPathStep_extends ht).many _ _ _ hsteps
  rw [mark_root_iff] at hroot hroot'
  rw [String.toList_append, hroot] at hroot'
  cases hroot'
  exact steps_left front hsteps'

end

/-! ## Single steps -/

section

variable {L : Lexicon}

theorem IsPropertyName.word {name : String} (h : IsPropertyName name) (inside : Bool)
    {rest : List Char} (hrest : goesOn rest = false) :
    Word L inside .propertyName name.toList (name.toList ++ rest) rest := by
  obtain ⟨c, cs, hname, hc, hcs⟩ := h
  rw [hname]
  exact .here _ rest (.name hc hcs) fun _ => hrest

theorem IsPropertyName.child {name : String} (h : IsPropertyName name) (inside : Bool)
    {rest : List Char} (hrest : goesOn rest = false) :
    IsSelector L inside (.child name) ('.' :: (name.toList ++ rest)) rest := by
  have dot : Mark L inside .child (['.'] ++ (name.toList ++ rest)) (name.toList ++ rest) :=
    .here ['.'] _ rfl trivial
  simpa using IsSelector.child dot (h.word inside hrest)

theorem IsPropertyName.deep {name : String} (h : IsPropertyName name) (inside : Bool)
    {rest : List Char} (hrest : goesOn rest = false) :
    IsSelector L inside (.deep name) ('.' :: '.' :: (name.toList ++ rest)) rest := by
  have dots : Mark L inside .deepScan (['.', '.'] ++ (name.toList ++ rest)) (name.toList ++ rest) :=
    .here ['.', '.'] _ rfl trivial
  simpa using IsSelector.deep dots (h.word inside hrest)

theorem isSteps_selector {text : String} {sel : Selector}
    (h : IsSelector L false sel text.toList []) : IsSteps L text [.select sel] :=
  .cons (.select h) (.nil [])

theorem isSteps_child {name : String} (h : IsPropertyName name) :
    IsSteps L ("." ++ name) [.select (.child name)] := by
  apply isSteps_selector
  have nothing : goesOn [] = false := rfl
  simpa using h.child false nothing

theorem isSteps_deep {name : String} (h : IsPropertyName name) :
    IsSteps L (".." ++ name) [.select (.deep name)] := by
  apply isSteps_selector
  have nothing : goesOn [] = false := rfl
  simpa using h.deep false nothing

theorem isSteps_descendants : IsSteps L "..*" [.select .descendants] :=
  isSteps_selector (.descendants (.here ['.', '.'] _ rfl trivial) (.here ['*'] _ rfl trivial))

theorem isSteps_bracket {text : String} {sel : Selector}
    (h : IsBracket L sel (text.toList ++ [']']) []) :
    IsSteps L ("[" ++ text ++ "]") [.select sel] := by
  apply isSteps_selector
  have opened : ("[" ++ text ++ "]").toList = '[' :: (text.toList ++ [']']) := by simp
  rw [opened]
  exact .bracket (.here ['['] _ rfl trivial) h

theorem isSteps_all : IsSteps L "[*]" [.select .children] := by
  have all : IsBracket L .children ("*".toList ++ [']']) [] :=
    .wildcard (.here ['*'] _ rfl trivial) (.here [']'] _ rfl trivial)
  exact isSteps_bracket all

theorem isSteps_quoted {name : String} (h : '\'' ∉ name.toList) :
    IsSteps L ("['" ++ name ++ "']") [.select (.names [name])] := by
  have string : IsString L name (("'" ++ name ++ "'").toList ++ [']']) [']'] := by
    refine ⟨name.toList, ?_, by simp⟩
    have quoted : ("'" ++ name ++ "'").toList = '\'' :: (name.toList ++ ['\'']) := by simp
    rw [quoted]
    exact .here _ [']'] (.string h) trivial
  have same : "['" ++ name ++ "']" = "[" ++ ("'" ++ name ++ "'") ++ "]" := by
    rw [← String.toList_inj]
    simp
  rw [same]
  exact isSteps_bracket (.names (.mk string (.nil _)) (.here [']'] [] rfl trivial))

theorem isSteps_filter {text : String} {c : Condition} (h : IsExpression L text c) :
    IsSteps L ("[?(" ++ text ++ ")]") [.filter c] := by
  have opened : ("[?(" ++ text ++ ")]").toList =
      ['['] ++ (['?', '('] ++ ((text.toList ++ [')']) ++ [']'])) := by simp
  have condition : IsCondition L c (text.toList ++ [')'] ++ [']']) ([] ++ [']']) :=
    isCondition_extends rfl _ _ _ h
  refine .cons ?_ (.nil [])
  rw [opened]
  exact .filter (.here ['['] _ rfl trivial) (.here ['?', '('] _ rfl trivial) condition
    (.here [']'] [] rfl trivial)

end

/-! ## Evaluating steps -/

theorem evaluate_steps {path text : String} {steps : List PathStep}
    (hpath : path.toList = '$' :: text.toList) (h : IsSteps .longest text steps)
    (hcompiles : ∀ s ∈ steps, s.Compiles) (root : Json) :
    evaluate root path = .ok (pickFrom root steps).toJson? := by
  have read := readPath_eq_ok_iff.2 (h.isPath hpath)
  refine (evaluate_of_readPath_ok read root).resolve_right ?_
  rintro ⟨e, -, -, -, hregex⟩
  exact hregex hcompiles

theorem evaluate_of_not_isPath {path : String} (h : ¬ ∃ steps, IsPath .longest path steps)
    (root : Json) : ∃ e, evaluate root path = .error e := by
  rcases hread : readPath path with e | steps
  · rcases evaluate_of_readPath_error hread root with he | ⟨f, hf, -⟩
    · exact ⟨e, he⟩
    · exact ⟨f, hf⟩
  · exact absurd ⟨steps, readPath_eq_ok_iff.1 hread⟩ h

theorem evaluate_selector {path text : String} {sel : Selector}
    (hpath : path.toList = '$' :: text.toList) (h : IsSteps .longest text [.select sel])
    (root : Json) : evaluate root path = .ok (sel.pick root).toJson? :=
  evaluate_steps hpath h (List.forall_mem_singleton.2 trivial) root

end Stencil.Path
