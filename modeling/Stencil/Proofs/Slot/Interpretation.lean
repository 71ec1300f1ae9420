import Stencil.Proofs.Slot.Meaning
import Stencil.Proofs.Slot.Readings

/-!
# Rendering is interpretation

What is rendered is what the text means, and a text that the grammar does not have is not rendered.
The renderer goes through the text token by token and the meaning follows the grammar, so that the
equation between them is one for every construct.
-/

namespace Stencil.Slot

open Lexer (place next_complete next_sound)
open Stencil.Path (Many stops_cons)
open Text (byteLength)

/-! ## Branches -/

section

variable {size : Nat} {last : Token} {cs : List Char}

theorem readBranches_complete {b : Branches} {more : List Branches} {rest : List Char}
    (hsize : byteLength cs ≤ size) (h : IsConditions (b :: more) cs rest) :
    ∃ a mid body, Word .condition cs a ∧ byteLength mid ≤ size ∧
      readBranches (place size (some .condition) a) =
        .ok (b, place size (some (.literal body)) mid) ∧
      IsConditions more mid rest := by
  cases h with
  | @short yes _ a mid _ condition first stop =>
    have sizeA : byteLength a ≤ size := condition.within hsize
    have sizeB : byteLength mid ≤ size := first.within sizeA
    refine ⟨a, mid, yes, condition, sizeB, ?_, .close stop⟩
    rw [readBranches, next_word sizeA (expects_branch yes) first]
    dsimp only
    rw [next_word sizeB (mayEnd_literal yes).2 stop]
  | @full yes no _ _ a b c mid _ condition first else_ second more =>
    have sizeA : byteLength a ≤ size := condition.within hsize
    have sizeB : byteLength b ≤ size := first.within sizeA
    have sizeC : byteLength c ≤ size := else_.within sizeB
    refine ⟨a, mid, no, condition, second.within sizeC, ?_, more⟩
    rw [readBranches, next_word sizeA (expects_branch yes) first]
    dsimp only
    rw [next_word sizeB (show Expects .else_ (.literal yes) from rfl) else_]
    dsimp only
    rw [next_word sizeC (expects_otherBranch no) second]

theorem readBranches_sound {b : Branches} {n : Lexer} (hsize : byteLength cs ≤ size)
    (h : readBranches (place size (some .condition) cs) = .ok (b, n)) :
    ∃ mid body, n = place size (some (.literal body)) mid ∧ byteLength mid ≤ size ∧
      ∀ before, Word .condition before cs → ∀ more rest, IsConditions more mid rest →
        IsConditions (b :: more) before rest := by
  unfold readBranches at h
  split at h
  · cases h
  · next yes m hfirst =>
    obtain ⟨mid, -, first, rfl⟩ := word_of_next hsize rfl hfirst
    have sizeM : byteLength mid ≤ size := first.within hsize
    split at h
    · cases h
    · next hstop =>
      cases h
      obtain ⟨_, -, stop, -⟩ := word_of_next sizeM rfl hstop
      refine ⟨mid, yes, rfl, sizeM, fun before condition more rest hmore => ?_⟩
      -- The brace is read again, so nothing but it stands there.
      cases hmore with
      | close stop' => exact .short condition first stop'
      | short condition' => cases (stop.unique_joining rfl rfl condition').1
      | full condition' => cases (stop.unique_joining rfl rfl condition').1
    · next n' helse =>
      obtain ⟨c, -, else_, rfl⟩ := word_of_next sizeM rfl helse
      have sizeC : byteLength c ≤ size := else_.within sizeM
      split at h
      · cases h
      · next no k hsecond =>
        cases h
        obtain ⟨d, -, second, rfl⟩ := word_of_next sizeC rfl hsecond
        exact ⟨d, no, rfl, second.within sizeC,
          fun before condition more rest hmore => .full condition first else_ second hmore⟩
      · cases h
    · cases h
  · cases h

theorem readComparand_iff (op : Comparison) {body : String} {n : Lexer}
    (hsize : byteLength cs ≤ size) :
    readComparand (place size (some (.operator op)) cs) = .ok (body, n) ↔
      ∃ rest, Word (.literal body) cs rest ∧ n = place size (some (.literal body)) rest := by
  constructor
  · intro h
    unfold readComparand at h
    split at h
    · cases h
    · next hnext =>
      cases h
      obtain ⟨rest, -, word, rfl⟩ := word_of_next hsize rfl hnext
      exact ⟨rest, word, rfl⟩
    · cases h
  · rintro ⟨rest, word, rfl⟩
    rw [readComparand, next_word hsize (expects_comparand body op) word]

theorem readCondition_iff (body : String) {n : Lexer} (hsize : byteLength cs ≤ size) :
    readCondition (place size (some (.literal body)) cs) = .ok n ↔
      ∃ rest, Word .condition cs rest ∧ n = place size (some .condition) rest := by
  constructor
  · intro h
    unfold readCondition at h
    split at h
    · cases h
    · next hnext =>
      cases h
      obtain ⟨rest, -, word, rfl⟩ := word_of_next hsize rfl hnext
      exact ⟨rest, word, rfl⟩
    · cases h
  · rintro ⟨rest, word, rfl⟩
    rw [readCondition, next_word hsize (mayEnd_literal body).1 word]

end

/-! ## One token -/

section

variable (registry : Registry) (ctx : Parameter)

/-- What the text is from a token on, the lexer standing behind it. -/
def renderToken (current : String) (m : Lexer) : Token → Except Error String
  | .text s => do
    let rest ← renderFrom registry ctx current m
    return s ++ rest
  | .start => renderFrom registry ctx "" m
  | .reference key => do
    let v ← (ctx.resolve key).mapError .path
    renderFrom registry ctx v.text m
  | .format spec => renderFrom registry ctx (registry.apply spec current) m
  | .match_ literal => do
    let found ← (firstMatch literal current).mapError .slot
    renderFrom registry ctx found m
  | .substring range => do
    let part ← (substring current range m.position).mapError .slot
    renderFrom registry ctx part m
  | .condition => do
    let (b, n) ← (readBranches m).mapError .slot
    let chosen ← render registry ctx (b.choose (!current.isEmpty))
    renderFrom registry ctx chosen n
  | .operator op => do
    let (comparand, n) ← (readComparand m).mapError .slot
    let right ← render registry ctx comparand
    let k ← (readCondition n).mapError .slot
    let (b, last) ← (readBranches k).mapError .slot
    let chosen ← render registry ctx (b.choose (op.holds current right))
    renderFrom registry ctx chosen last
  | .stop => do
    let rest ← renderFrom registry ctx current m
    return current ++ rest
  | .literal _ | .else_ => .error (.slot (.malformed m.position .strayBranch))

variable {registry ctx} {current : String} {l m : Lexer}

theorem renderFrom_error {e : SlotError} (h : l.next = (.error e, m)) :
    renderFrom registry ctx current l = .error (.slot e) := by
  rw [renderFrom.eq_def]
  split
  · next hl =>
    cases h.symm.trans hl
    rfl
  · next hl => cases h.symm.trans hl
  · next hl => cases h.symm.trans hl

theorem renderFrom_end (h : l.next = (.ok none, m)) :
    renderFrom registry ctx current l = .ok "" := by
  rw [renderFrom.eq_def]
  split
  · next hl => cases h.symm.trans hl
  · rfl
  · next hl => cases h.symm.trans hl

theorem renderFrom_token {t : Token} (h : l.next = (.ok (some t), m)) :
    renderFrom registry ctx current l = renderToken registry ctx current m t := by
  rw [renderFrom.eq_def]
  split
  · next hl => cases h.symm.trans hl
  · next hl => cases h.symm.trans hl
  · next hl =>
    cases h.symm.trans hl
    cases t with
    | text s =>
      dsimp only [renderToken]
      cases renderFrom registry ctx current m <;> rfl
    | start => rfl
    | reference key =>
      dsimp only [renderToken]
      cases ctx.resolve key <;> rfl
    | format spec => rfl
    | match_ literal =>
      dsimp only [renderToken]
      cases firstMatch literal current <;> rfl
    | substring range =>
      dsimp only [renderToken]
      cases substring current range m.position <;> rfl
    | condition =>
      dsimp only [renderToken, render]
      split
      · next hb => simp only [hb, mapError_error, error_bind]
      · next b n hb =>
        simp only [hb, mapError_ok, ok_bind]
        cases renderFrom registry ctx "" (.start (b.choose (!current.isEmpty))) <;> rfl
    | operator op =>
      dsimp only [renderToken, render]
      split
      · next hcomparand => simp only [hcomparand, mapError_error, error_bind]
      next comparand n hcomparand =>
      simp only [hcomparand, mapError_ok, ok_bind]
      split
      · next hright => simp only [hright, error_bind]
      next right hright =>
      simp only [hright, ok_bind]
      split
      · next hcondition => simp only [hcondition, mapError_error, error_bind]
      next k hcondition =>
      simp only [hcondition, mapError_ok, ok_bind]
      split
      · next hb => simp only [hb, mapError_error, error_bind]
      next b last hb =>
      simp only [hb, mapError_ok, ok_bind]
      cases renderFrom registry ctx "" (.start (b.choose (op.holds current right))) <;> rfl
    | stop =>
      dsimp only [renderToken]
      cases renderFrom registry ctx current m <;> rfl
    | literal body => rfl
    | else_ => rfl

end

/-! ## What is well formed is rendered -/

section

variable {registry : Registry} {ctx : Parameter} {size : Nat} {current : String}

theorem renderToken_modifier {t : Token} {m : Lexer} {modifier : Modifier}
    (h : t.modifier? m.position = some modifier) :
    renderToken registry ctx current m t =
      modifier.apply registry current >>= fun changed => renderFrom registry ctx changed m := by
  cases t with
  | format spec =>
    cases h
    rfl
  | match_ pattern =>
    cases h
    rfl
  | substring range =>
    cases h
    rfl
  | text | start | reference | condition | operator | literal | else_ | stop => cases h

theorem renderFrom_conditions {conditions : List Branches} {last : Token} {cs rest : List Char}
    (hsize : byteLength cs ≤ size) (hlast : last.mayEnd) (h : IsConditions conditions cs rest) :
    renderFrom registry ctx current (place size (some last) cs) = do
      let v ← conditions.foldlM (Branches.apply (render registry ctx)) current
      let tail ← renderFrom registry ctx v (place size (some .stop) rest)
      return v ++ tail := by
  induction conditions generalizing current last cs with
  | nil =>
    cases h with
    | close stop =>
      rw [renderFrom_token (next_word hsize hlast.2 stop)]
      rfl
  | cons b more ih =>
    obtain ⟨a, mid, body, condition, sizeM, read, hmore⟩ := readBranches_complete hsize h
    rw [renderFrom_token (next_word hsize hlast.1 condition)]
    dsimp only [renderToken]
    rw [read, List.foldlM_cons, bind_assoc]
    show render registry ctx (b.choose (!current.isEmpty)) >>= _ = _
    congr
    funext chosen
    exact ih sizeM (mayEnd_literal body) hmore

theorem renderFrom_choice {test : Option Test} {conditions : List Branches} {last : Token}
    {cs rest : List Char} (hsize : byteLength cs ≤ size) (hlast : last.setsText = true)
    (h : IsChoice (test, conditions) cs rest) :
    renderFrom registry ctx current (place size (some last) cs) = do
      let tested ← test.elim (pure current) (Test.apply (render registry ctx) current)
      let v ← conditions.foldlM (Branches.apply (render registry ctx)) tested
      let tail ← renderFrom registry ctx v (place size (some .stop) rest)
      return v ++ tail := by
  cases h with
  | plain h => exact renderFrom_conditions hsize (mayEnd_of_setsText hlast) h
  | @tested op comparand branches _ _ a b _ operator literal h =>
    have sizeA : byteLength a ≤ size := operator.within hsize
    have sizeB : byteLength b ≤ size := literal.within sizeA
    obtain ⟨c, mid, body, condition, sizeM, read, hmore⟩ := readBranches_complete sizeB h
    have readLiteral := (readComparand_iff op sizeA).2 ⟨b, literal, rfl⟩
    have readMark := (readCondition_iff comparand sizeB).2 ⟨c, condition, rfl⟩
    rw [renderFrom_token (next_word hsize (expects_of_setsText hlast rfl) operator)]
    dsimp only [renderToken, Option.elim, Test.apply]
    rw [readLiteral, bind_assoc]
    show render registry ctx comparand >>= _ = _
    congr
    funext right
    rw [readMark]
    show (readBranches (place size (some .condition) c)).mapError Error.slot >>= _ = _
    rw [read]
    show render registry ctx (branches.choose (op.holds current right)) >>= _ = _
    congr
    funext chosen
    exact renderFrom_conditions sizeM (mayEnd_literal body) hmore

variable (registry ctx) in
theorem renderFrom_modifiers {modifiers : List Modifier} {last : Token} {cs rest : List Char}
    (hsize : byteLength cs ≤ size) (hlast : last.setsText = true)
    (h : Many (IsModifier size) modifiers cs rest) :
    ∃ last', last'.setsText = true ∧ byteLength rest ≤ size ∧ ∀ current,
      renderFrom registry ctx current (place size (some last) cs) =
        modifiers.foldlM (Modifier.apply registry) current >>= fun v =>
          renderFrom registry ctx v (place size (some last') rest) := by
  induction h generalizing last with
  | nil cs => exact ⟨last, hlast, hsize, fun current => rfl⟩
  | cons hmodifier _ ih =>
    obtain ⟨t, word, ht⟩ := hmodifier
    obtain ⟨sets, continues⟩ := Token.setsText_of_modifier ht
    obtain ⟨last', hlast', sizeR, more⟩ := ih (word.within hsize) sets
    refine ⟨last', hlast', sizeR, fun current => ?_⟩
    rw [renderFrom_token (next_word hsize (expects_of_setsText hlast continues) word),
      renderToken_modifier ht, List.foldlM_cons, bind_assoc]
    congr
    funext changed
    exact more changed

theorem renderFrom_hole {h : Hole} {cs rest : List Char} (hsize : byteLength cs ≤ size)
    (hole : IsHole size h cs rest) :
    renderFrom registry ctx current (place size (some .start) cs) = do
      let v ← h.value registry ctx (render registry ctx)
      let tail ← renderFrom registry ctx v (place size (some .stop) rest)
      return v ++ tail := by
  cases hole with
  | @mk key _ _ _ _ a b _ reference modifiers choice =>
    have sizeA : byteLength a ≤ size := reference.within hsize
    have sets : (Token.reference key).setsText = true := rfl
    obtain ⟨last, hlast, sizeB, more⟩ := renderFrom_modifiers registry ctx sizeA sets modifiers
    rw [renderFrom_token (next_word hsize (expects_reference key) reference)]
    dsimp only [renderToken, Hole.value]
    simp only [more, renderFrom_choice sizeB hlast choice, bind_assoc]

theorem renderFrom_items {items : List Item} {last : Option Token} {cs : List Char}
    (hsize : byteLength cs ≤ size) (hlast : isTextual last = true)
    (h : Many (IsItem size) items cs []) :
    renderFrom registry ctx current (place size last cs) =
      interpret registry ctx (render registry ctx) items := by
  generalize hend : [] = rest at h
  induction h generalizing current last with
  | nil cs =>
    subst hend
    exact renderFrom_end (Lexer.next_nil hlast)
  | @cons item _ cs mid _ hitem _ ih =>
    subst hend
    have sizeM : byteLength mid ≤ size := within_of_suffix hitem.suffix hsize
    cases hitem with
    | text piece =>
      rw [renderFrom_token (next_complete hsize (.text hlast piece))]
      dsimp only [renderToken, interpret, Item.value]
      rw [ih sizeM rfl rfl]
      rfl
    | @slot h cs _ hole =>
      have sizeC : byteLength cs ≤ size := within_of_suffix (List.suffix_cons _ cs) hsize
      rw [renderFrom_token (next_complete hsize (.start hlast hole.opens))]
      have tail (v : String) : renderFrom registry ctx v (place size (some .stop) mid) = _ :=
        ih sizeM rfl rfl
      dsimp only [renderToken, interpret, Item.value]
      simp only [renderFrom_hole sizeC hole, tail]

end

/-! ## What is rendered is well formed -/

/-- Behind a token, the text goes on to its end as the grammar has it. -/
def GoesOn (size : Nat) (cs : List Char) : Option Token → Prop
  | none | some (.text _) | some .stop => ∃ items, Many (IsItem size) items cs []
  | some .start => ∃ h rest items, IsHole size h cs rest ∧ Many (IsItem size) items rest []
  | some (.reference _) | some (.format _) | some (.match_ _) | some (.substring _) =>
    ∃ modifiers choice mid rest items, Many (IsModifier size) modifiers cs mid ∧
      IsChoice choice mid rest ∧ Many (IsItem size) items rest []
  | some (.literal _) => ∃ conditions rest items, IsConditions conditions cs rest ∧
      Many (IsItem size) items rest []
  | some (.operator _) | some .condition | some .else_ => True

section

variable {size : Nat} {cs : List Char}

theorem goesOn_items {last : Option Token} (hlast : isTextual last = true) :
    GoesOn size cs last ↔ ∃ items, Many (IsItem size) items cs [] := by
  rcases last with _ | t
  · rfl
  · cases t <;> first | rfl | cases hlast

theorem goesOn_modifiers {last : Token} (hlast : last.setsText = true) :
    GoesOn size cs (some last) ↔
      ∃ modifiers choice mid rest items, Many (IsModifier size) modifiers cs mid ∧
        IsChoice choice mid rest ∧ Many (IsItem size) items rest [] := by
  cases last <;> first | rfl | cases hlast

theorem goesOn_of_conditions {t last : Token} (ht : t = .condition ∨ t = .stop)
    (hlast : Expects t last) {conditions : List Branches} {items : List Item} {rest : List Char}
    (h : IsConditions conditions cs rest) (hitems : Many (IsItem size) items rest []) :
    GoesOn size cs (some last) := by
  cases last with
  | reference | format | match_ | substring =>
    exact ⟨[], (none, conditions), cs, rest, items, .nil cs, .plain h, hitems⟩
  | literal => exact ⟨conditions, rest, items, h, hitems⟩
  | operator | condition | else_ => trivial
  | start =>
    obtain ⟨key, rfl⟩ := hlast
    rcases ht with ht | ht <;> cases ht
  | text | stop => cases hlast

end

section

variable {registry : Registry} {ctx : Parameter} {size : Nat} {current s : String} {cs : List Char}

open Stencil.Path.Reader (bind_eq_ok)

/-- Texts shorter than `n` characters go on when they are rendered. -/
def ShorterGoOn (registry : Registry) (ctx : Parameter) (size n : Nat) : Prop :=
  ∀ {current s last more}, more.length < n → byteLength more ≤ size →
    renderFrom registry ctx current (place size last more) = .ok s → GoesOn size more last

variable {last : Token} {rest : List Char}

theorem goesOn_of_modifier {t : Token} {modifier : Modifier} {v : String}
    (hsize : byteLength cs ≤ size) (ih : ShorterGoOn registry ctx size cs.length)
    (ht : Expects t last) (word : Word t cs rest)
    (hmodifier : t.modifier? (size - byteLength rest) = some modifier)
    (h : renderFrom registry ctx v (place size (some t) rest) = .ok s) :
    GoesOn size cs (some last) := by
  have short : rest.length < cs.length := Lexer.next_lt (next_word hsize ht word)
  obtain ⟨sets, continues⟩ := Token.setsText_of_modifier hmodifier
  have goes := (goesOn_modifiers sets).1 (ih short (word.within hsize) h)
  obtain ⟨modifiers, choice, mid, rest', items, hmodifiers, hchoice, hitems⟩ := goes
  apply (goesOn_modifiers (setsText_of_expects ht continues ?_ ?_)).2
  · exact ⟨_, choice, mid, rest', items, .cons ⟨t, word, hmodifier⟩ hmodifiers, hchoice, hitems⟩
  · rintro rfl
    cases sets
  · rintro rfl
    cases sets

theorem goesOn_of_branches {before : List Char} {b : Branches} {n : Lexer} {v : String}
    (hsize : byteLength before ≤ size) (ih : ShorterGoOn registry ctx size cs.length)
    (suffix : before <:+ cs) (condition : Word .condition before rest)
    (read : readBranches (place size (some .condition) rest) = .ok (b, n))
    (h : renderFrom registry ctx v n = .ok s) :
    ∃ more rest' items, IsConditions (b :: more) before rest' ∧
      Many (IsItem size) items rest' [] := by
  obtain ⟨mid, body, rfl, sizeM, hconditions⟩ :=
    readBranches_sound (condition.within hsize) read
  have shorter : mid.length < rest.length := (readBranches_lt read).1
  have less : mid.length < cs.length := by
    have behindCondition := condition.suffix.length_le
    have behind := suffix.length_le
    omega
  obtain ⟨more, rest', items, hmore, hitems⟩ := ih less sizeM h
  exact ⟨more, rest', items, hconditions before condition more rest' hmore, hitems⟩

theorem goesOn_of_condition (hsize : byteLength cs ≤ size)
    (ih : ShorterGoOn registry ctx size cs.length) (ht : Expects .condition last)
    (word : Word .condition cs rest)
    (h : renderToken registry ctx current (place size (some .condition) rest) .condition = .ok s) :
    GoesOn size cs (some last) := by
  obtain ⟨⟨b, n⟩, read, h⟩ := bind_eq_ok h
  obtain ⟨chosen, -, h⟩ := bind_eq_ok h
  rw [mapError_eq_ok] at read
  obtain ⟨more, rest', items, hmore, hitems⟩ :=
    goesOn_of_branches hsize ih (List.suffix_refl cs) word read h
  exact goesOn_of_conditions (.inl rfl) ht hmore hitems

theorem goesOn_of_operator {op : Comparison} (hsize : byteLength cs ≤ size)
    (ih : ShorterGoOn registry ctx size cs.length) (ht : Expects (.operator op) last)
    (word : Word (.operator op) cs rest)
    (h : renderToken registry ctx current (place size (some (.operator op)) rest) (.operator op) =
      .ok s) :
    GoesOn size cs (some last) := by
  obtain ⟨⟨comparand, n⟩, readLiteral, h⟩ := bind_eq_ok h
  obtain ⟨right, -, h⟩ := bind_eq_ok h
  obtain ⟨k, readMark, h⟩ := bind_eq_ok h
  obtain ⟨⟨b, n'⟩, read, h⟩ := bind_eq_ok h
  obtain ⟨chosen, -, behind⟩ := bind_eq_ok h
  rw [mapError_eq_ok] at readLiteral readMark read
  have sizeR := word.within hsize
  obtain ⟨c, literal, rfl⟩ := (readComparand_iff op sizeR).1 readLiteral
  have sizeC := literal.within sizeR
  obtain ⟨d, condition, rfl⟩ := (readCondition_iff comparand sizeC).1 readMark
  obtain ⟨more, rest', items, hmore, hitems⟩ :=
    goesOn_of_branches sizeC ih (literal.suffix.trans word.suffix) condition read behind
  apply (goesOn_modifiers (setsText_of_expects ht rfl nofun nofun)).2
  exact ⟨[], _, cs, rest', items, .nil cs, .tested word literal hmore, hitems⟩

/-- The step: if what is shorter goes on when it is rendered, so does what starts with a token. -/
theorem GoesOn.step {last : Option Token} {t : Token} {rest : List Char}
    (hsize : byteLength cs ≤ size) (takes : Takes last t cs rest)
    (h : renderToken registry ctx current (place size (some t) rest) t = .ok s)
    (ih : ShorterGoOn registry ctx size cs.length) : GoesOn size cs last := by
  have short : rest.length < cs.length := Lexer.next_lt (next_complete hsize takes)
  cases takes with
  | text hlast piece =>
    obtain ⟨_, h, -⟩ := bind_eq_ok h
    obtain ⟨items, hitems⟩ := ih short (within_of_suffix piece.suffix hsize) h
    exact (goesOn_items hlast).2 ⟨_, .cons (.text piece) hitems⟩
  | start hlast =>
    obtain ⟨hole, _, items, hhole, hitems⟩ :=
      ih short (within_of_suffix (List.suffix_cons _ _) hsize) h
    exact (goesOn_items hlast).2 ⟨_, .cons (.slot hhole) hitems⟩
  | @word _ last _ _ hlast ht word =>
    subst hlast
    cases t with
    | text | start => cases last <;> simp [Expects, Token.continues, Token.joins] at ht
    | literal | else_ => cases h
    | reference key =>
      obtain ⟨v, -, h⟩ := bind_eq_ok h
      obtain ⟨modifiers, choice, mid, rest', items, hmodifiers, hchoice, hitems⟩ :=
        ih short (word.within hsize) h
      cases last with
      | start => exact ⟨_, rest', items, .mk word hmodifiers hchoice, hitems⟩
      | _ => simp [Expects, Token.continues, Token.joins] at ht
    | format spec => exact goesOn_of_modifier hsize ih ht word rfl h
    | match_ pattern =>
      obtain ⟨found, -, h⟩ := bind_eq_ok h
      exact goesOn_of_modifier hsize ih ht word rfl h
    | substring range =>
      obtain ⟨part, -, h⟩ := bind_eq_ok h
      exact goesOn_of_modifier hsize ih ht word rfl h
    | condition => exact goesOn_of_condition hsize ih ht word h
    | operator op => exact goesOn_of_operator hsize ih ht word h
    | stop =>
      obtain ⟨_, h, -⟩ := bind_eq_ok h
      obtain ⟨items, hitems⟩ := ih short (word.within hsize) h
      exact goesOn_of_conditions (.inr rfl) ht (.close word) hitems

theorem goesOn_of_rendered {last : Option Token} (hsize : byteLength cs ≤ size)
    (h : renderFrom registry ctx current (place size last cs) = .ok s) : GoesOn size cs last := by
  induction hn : cs.length using Nat.strongRecOn generalizing last cs current s with
  | ind n ih =>
    subst hn
    rcases hnext : (place size last cs).next with ⟨e | _ | t, m⟩
    · rw [renderFrom_error hnext] at h
      cases h
    · obtain ⟨hlast, rfl⟩ := Lexer.next_eq_none hnext
      exact (goesOn_items hlast).2 ⟨[], .nil []⟩
    · obtain ⟨rest, takes, rfl⟩ := next_sound hsize hnext
      rw [renderFrom_token hnext] at h
      exact GoesOn.step hsize takes h fun less hmore hrendered => ih _ less hmore hrendered rfl

end

/-! ## Rendering -/

section

variable {registry : Registry} {ctx : Parameter}

theorem render_eq_interpret {text : String} {items : List Item} (h : IsText text items) :
    render registry ctx text = interpret registry ctx (render registry ctx) items := by
  rw [render, Lexer.start_eq]
  exact renderFrom_items (Nat.le_refl _) rfl h

theorem isText_of_rendered {text s : String} (h : render registry ctx text = .ok s) :
    ∃ items, IsText text items := by
  rw [render, Lexer.start_eq] at h
  exact goesOn_of_rendered (Nat.le_refl _) h

theorem renders_of_rendered {text s : String} (h : render registry ctx text = .ok s) :
    Renders registry ctx text s := by
  induction hn : text.toList.length using Nat.strongRecOn generalizing text s with
  | ind n ih =>
    subst hn
    obtain ⟨items, hitems⟩ := isText_of_rendered h
    rw [render_eq_interpret hitems] at h
    -- Only shorter texts stand in quotes, so nothing else has to mean anything.
    let shorter (body : String) : Except Error String :=
      if body.toList.length < text.toList.length then render registry ctx body else .error .tooDeep
    have nested : ∀ body t, shorter body = .ok t → Renders registry ctx body t := by
      intro body t hbody
      dsimp only [shorter] at hbody
      split at hbody
      · next hlength => exact ih _ hlength hbody rfl
      · cases hbody
    refine .mk hitems nested (interpret_mono ?_ h)
    intro item hitem body hbody t ht
    dsimp only [shorter]
    rwa [if_pos (items_length hitems item hitem body hbody)]

theorem rendered_of_renders {text s : String} (h : Renders registry ctx text s) :
    render registry ctx text = .ok s := by
  induction h with
  | mk hitems _ h ih =>
    rw [render_eq_interpret hitems]
    exact interpret_mono (fun _ _ body _ t => ih body t) h

/-- Slot text renders to what the grammar and the meaning of its items give it. -/
theorem render_is_interpretation (registry : Registry) (ctx : Parameter) (text : String) :
    (∀ s, render registry ctx text = .ok s ↔ Renders registry ctx text s) ∧
      (∀ items, IsText text items →
        (∀ items', IsText text items' → items' = items) ∧
          render registry ctx text = interpret registry ctx (render registry ctx) items) ∧
      ((∀ items, ¬ IsText text items) → ∃ e, render registry ctx text = .error e) := by
  refine ⟨fun s => ⟨renders_of_rendered, rendered_of_renders⟩, ?_, ?_⟩
  · intro items hitems
    exact ⟨fun items' hitems' => items_unique hitems' hitems, render_eq_interpret hitems⟩
  · intro hnone
    rcases hrendered : render registry ctx text with e | s
    · exact ⟨e, rfl⟩
    · obtain ⟨items, hitems⟩ := isText_of_rendered hrendered
      exact absurd hitems (hnone items)

end

/-- A slot with a modifier and a comparison, in front of literal text. -/
def comparing : String := "\x7bn:Trim == 'a' ? 'b'\x7d!"

def comparingItems : List Item :=
  [.slot ⟨"n", [.format "Trim"], some ⟨.equal, "a", ⟨"b", ""⟩⟩, []⟩, .text "!"]

theorem isText_comparing : IsText comparing comparingItems := by
  have reference (rest : List Char) : Word (.reference "n") ('n' :: ':' :: rest) (':' :: rest) :=
    ⟨[], _, rfl, nofun, @Lexeme.name 'n' [] _ rfl nofun (stops_cons rfl)⟩
  have format (size : Nat) (rest : List Char) : IsModifier size (.format "Trim")
      (':' :: 'T' :: 'r' :: 'i' :: 'm' :: ' ' :: rest) (' ' :: rest) :=
    ⟨_, ⟨[], _, rfl, nofun, @Lexeme.format 'T' ['r', 'i', 'm'] _ (by decide) (by decide)
      (by simp [endsFormat]) (stops_cons rfl)⟩, rfl⟩
  have operator (rest : List Char) : Word (.operator .equal) (' ' :: '=' :: '=' :: rest) rest :=
    ⟨[' '], _, rfl, by simp [isSpace], @Lexeme.sign (.operator .equal) _ rest rfl (by simp)⟩
  have literal (rest : List Char) : Word (.literal "a") (' ' :: '\'' :: 'a' :: '\'' :: rest) rest :=
    ⟨[' '], _, rfl, by simp [isSpace], @Lexeme.literal ['a'] rest (by simp)⟩
  have condition (rest : List Char) : Word .condition (' ' :: '?' :: rest) rest :=
    ⟨[' '], _, rfl, by simp [isSpace], lexeme_condition rest⟩
  have branch (rest : List Char) : Word (.literal "b") (' ' :: '\'' :: 'b' :: '\'' :: rest) rest :=
    ⟨[' '], _, rfl, by simp [isSpace], @Lexeme.literal ['b'] rest (by simp)⟩
  have stop (rest : List Char) : Word .stop ('\x7d' :: rest) rest :=
    ⟨[], _, rfl, nofun, lexeme_stop rest⟩
  have conditions := IsConditions.short (condition _) (branch _) (stop ['!'])
  have choice := IsChoice.tested (operator _) (literal _) conditions
  have hole (size : Nat) : IsHole size _ _ _ :=
    .mk (reference _) (.cons (format size _) (.nil _)) choice
  have mark : Piece "!" ['!'] [] :=
    .plain (by decide) (by simp [isPlain]) (by simp [Path.Stops])
  exact .cons (.slot (hole _)) (.cons (.text mark) (.nil []))

/-- A text with blanks around it, which the modifier takes off. -/
def comparingContext : Parameter := .store (Store.empty.add "n" (.string " a "))

theorem render_is_interpretation_comparing :
    IsText comparing comparingItems ∧ render .builtin comparingContext comparing = .ok "b!" := by
  have main (text : String) := render_is_interpretation .builtin comparingContext text
  have a : render .builtin comparingContext "a" = .ok "a" :=
    ((main "a").2.1 _ (isText_plain (by decide) (by decide))).2
  have b : render .builtin comparingContext "b" = .ok "b" :=
    ((main "b").2.1 _ (isText_plain (by decide) (by decide))).2
  refine ⟨isText_comparing, ((main _).2.1 _ isText_comparing).2.trans ?_⟩
  have found : comparingContext.resolve "n" = .ok (.string " a ") := rfl
  have trimmed : Modifier.apply .builtin " a " (.format "Trim") = .ok "a" := by
    have applied : Registry.builtin.apply "Trim" " a " = "a" := by decide
    simp only [Modifier.apply, applied, mapError_ok]
  have branch : Test.apply (render .builtin comparingContext) "a" ⟨.equal, "a", ⟨"b", ""⟩⟩ =
      .ok "b" := by
    rw [Test.apply, a]
    exact b
  simp only [interpret, comparingItems, Item.value, Hole.value, found, mapError_ok, ok_bind,
    Value.text, List.foldlM_cons, List.foldlM_nil, pure_bind, trimmed, Option.elim, branch]
  rfl

end Stencil.Slot
