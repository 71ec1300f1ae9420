import Stencil.Proofs.Slot.Interpretation
import Stencil.Request.Build

/-!
# Values in URLs

A URL is rendered twice, so that a value may bring slots of its own. A value that is encoded last
cannot: nothing that the encoding puts out opens or closes a slot, and text without braces is
rendered to itself.
-/

namespace Stencil

/-! ## Encoded text -/

namespace Text

def isHexDigit (c : Char) : Bool := c.isDigit || ('A' ≤ c && c ≤ 'F')

/-- Unreserved characters, and percent signs with two hexadecimal digits behind each. -/
inductive IsEncoded : List Char → Prop where
  | nil : IsEncoded []
  | unreserved {c : Char} {cs : List Char} :
    isUnreserved c = true → IsEncoded cs → IsEncoded (c :: cs)
  | byte {high low : Char} {cs : List Char} :
    isHexDigit high = true → isHexDigit low = true → IsEncoded cs →
      IsEncoded ('%' :: high :: low :: cs)

theorem isHexDigit_hexDigit : ∀ n < 16, isHexDigit (hexDigit n) = true := by decide

theorem IsEncoded.bytes (bs : List UInt8) {cs : List Char} (h : IsEncoded cs) :
    IsEncoded (bs.flatMap percentByte ++ cs) := by
  induction bs with
  | nil => exact h
  | cons b bs ih =>
    have size := b.toNat_lt_size
    simp only [UInt8.size] at size
    have high := isHexDigit_hexDigit (b.toNat / 16) (by omega)
    have low := isHexDigit_hexDigit (b.toNat % 16) (by omega)
    simp only [List.flatMap_cons, percentByte, List.cons_append, List.nil_append]
    exact .byte high low ih

theorem isEncoded_urlEncode (s : String) : IsEncoded (urlEncode s).toList := by
  rw [urlEncode, String.toList_ofList, percentEncode]
  induction s.toList with
  | nil => exact .nil
  | cons c cs ih =>
    rw [List.flatMap_cons]
    by_cases hc : isUnreserved c = true
    · rw [if_pos hc]
      exact .unreserved hc ih
    · rw [if_neg hc]
      exact .bytes _ ih

end Text

namespace Slot

open Text (IsEncoded)

theorem isPlain_of_class {p : Char → Bool} (hopen : p '\x7b' = false) (hclose : p '\x7d' = false)
    {c : Char} (h : p c = true) : isPlain c = true := by
  have notOpen : c ≠ '\x7b' := by
    intro hc
    simp [hc, hopen] at h
  have notClose : c ≠ '\x7d' := by
    intro hc
    simp [hc, hclose] at h
  simp [isPlain, notOpen, notClose]

theorem isPlain_of_isEncoded {cs : List Char} (h : IsEncoded cs) : ∀ c ∈ cs, isPlain c = true := by
  have digit {c : Char} (hc : Text.isHexDigit c = true) : isPlain c = true :=
    isPlain_of_class rfl rfl hc
  induction h with
  | nil => simp
  | unreserved hc _ ih =>
    exact List.forall_mem_cons.2 ⟨isPlain_of_class rfl rfl hc, ih⟩
  | byte hhigh hlow _ ih =>
    exact List.forall_mem_cons.2
      ⟨rfl, List.forall_mem_cons.2 ⟨digit hhigh, List.forall_mem_cons.2 ⟨digit hlow, ih⟩⟩⟩

theorem render_of_isPlain (registry : Registry) (ctx : Parameter) {text : String}
    (h : ∀ c ∈ text.toList, isPlain c = true) : render registry ctx text = .ok text := by
  by_cases hne : text.toList = []
  · obtain rfl : text = "" := String.toList_eq_nil_iff.1 hne
    have nothing : IsText "" [] := .nil []
    exact render_eq_interpret nothing
  · rw [render_eq_interpret (isText_plain hne (List.all_eq_true.2 h))]
    simp [interpret, Item.value, bind, Except.bind, pure, Except.pure]

/-! ## Items of a URL -/

/-- Text without braces, or a slot without conditions that encodes its text last. -/
inductive Item.IsEncoding : Item → Prop where
  | text {s : String} : (∀ c ∈ s.toList, isPlain c = true) → IsEncoding (.text s)
  | slot (key : String) (earlier : List Modifier) :
    IsEncoding (.slot ⟨key, earlier ++ [.format "urlEncode"], none, []⟩)

/-- The text is that of the items one behind the other: texts as they are, values encoded. -/
inductive Spells (ctx : Parameter) : List Item → String → Prop where
  | nil : Spells ctx [] ""
  | text {items : List Item} {s rest : String} :
    Spells ctx items rest → Spells ctx (.text s :: items) (s ++ rest)
  | slot {items : List Item} {key v rest : String} {earlier : List Modifier} {found : Value} :
    ctx.resolve key = .ok found → earlier.foldlM (Modifier.apply .builtin) found.text = .ok v →
      Spells ctx items rest →
      Spells ctx (.slot ⟨key, earlier ++ [.format "urlEncode"], none, []⟩ :: items)
        (Text.urlEncode v ++ rest)

section

variable {ctx : Parameter} {nested : String → Except Error String}

open Stencil.Path.Reader (bind_eq_ok)

theorem apply_urlEncode (v : String) :
    Modifier.apply .builtin v (.format "urlEncode") = .ok (Text.urlEncode v) := rfl

theorem encoding_value {key s : String} {earlier : List Modifier}
    (h : Hole.value .builtin ctx nested ⟨key, earlier ++ [.format "urlEncode"], none, []⟩ = .ok s) :
    ∃ found v, ctx.resolve key = .ok found ∧
      earlier.foldlM (Modifier.apply .builtin) found.text = .ok v ∧ s = Text.urlEncode v := by
  obtain ⟨found, hfound, h⟩ := bind_eq_ok h
  obtain ⟨changed, hchanged, h⟩ := bind_eq_ok h
  rw [List.foldlM_append] at hchanged
  obtain ⟨v, hv, hlast⟩ := bind_eq_ok hchanged
  cases h
  refine ⟨found, v, mapError_eq_ok.1 hfound, hv, ?_⟩
  rw [List.foldlM_cons, apply_urlEncode] at hlast
  cases hlast
  rfl

theorem spells_of_interpret {items : List Item} {s : String}
    (hitems : ∀ item ∈ items, item.IsEncoding)
    (h : interpret .builtin ctx nested items = .ok s) : Spells ctx items s := by
  induction items generalizing s with
  | nil =>
    cases h
    exact .nil
  | cons item items ih =>
    obtain ⟨front, hfront, h⟩ := bind_eq_ok h
    obtain ⟨rest, hrest, h⟩ := bind_eq_ok h
    cases h
    have more := ih (fun item hitem => hitems item (List.mem_cons_of_mem _ hitem)) hrest
    cases hitems item List.mem_cons_self with
    | text =>
      cases hfront
      exact .text more
    | slot key earlier =>
      obtain ⟨found, v, hfound, hv, rfl⟩ := encoding_value hfront
      exact .slot hfound hv more

theorem Spells.isPlain {items : List Item} {s : String} (hitems : ∀ item ∈ items, item.IsEncoding)
    (h : Spells ctx items s) : ∀ c ∈ s.toList, isPlain c = true := by
  induction h with
  | nil => exact nofun
  | text _ ih =>
    have ⟨first, more⟩ := List.forall_mem_cons.1 hitems
    cases first with
    | text hs =>
      rw [String.toList_append]
      exact List.forall_mem_append.2 ⟨hs, ih more⟩
  | slot _ _ _ ih =>
    have ⟨_, more⟩ := List.forall_mem_cons.1 hitems
    rw [String.toList_append]
    exact List.forall_mem_append.2 ⟨isPlain_of_isEncoded (Text.isEncoded_urlEncode _), ih more⟩

end

end Slot

/-! ## Building -/

namespace RequestTemplate

open Slot (IsText Item Spells)

section

variable {t : RequestTemplate} {scope : Scope} {once twice : String}

open Stencil.Path.Reader (bind_eq_ok)

theorem build_of_rendered (honce : render t.url scope = .ok once)
    (htwice : render once scope = .ok twice) :
    (∀ e, parseUrl twice = .error e → t.build scope = .error e) ∧
      ∀ r, t.build scope = .ok r → parseUrl twice = .ok r.url := by
  unfold build
  rw [honce, Slot.ok_bind, htwice, Slot.ok_bind]
  refine ⟨fun e he => ?_, fun r hr => ?_⟩
  · rw [he]
    rfl
  · obtain ⟨url, hurl, hr⟩ := bind_eq_ok hr
    obtain ⟨headers, -, hr⟩ := bind_eq_ok hr
    dsimp only at hr
    split at hr
    all_goals
      obtain ⟨body, -, hr⟩ := bind_eq_ok hr
      cases hr
      exact hurl

/-- A URL of plain text and encoded values is the same after the second rendering, and what is
parsed is its texts and the encoded values, whatever the values hold. -/
theorem build_encoded_url {items : List Item} (htext : IsText t.url items)
    (hitems : ∀ item ∈ items, item.IsEncoding) (honce : render t.url scope = .ok once) :
    render once scope = .ok once ∧ Spells (.scope scope) items once ∧
      (∀ e, parseUrl once = .error e → t.build scope = .error e) ∧
      ∀ r, t.build scope = .ok r → parseUrl once = .ok r.url := by
  have meaning := honce
  rw [render, Slot.render_eq_interpret htext] at meaning
  have spells := Slot.spells_of_interpret hitems meaning
  have same : render once scope = .ok once :=
    Slot.render_of_isPlain .builtin (.scope scope) (spells.isPlain hitems)
  exact ⟨same, spells, build_of_rendered honce same⟩

end

def searchFront : String := "https://example.com/search?q="

def search : RequestTemplate := .ofUrl (searchFront ++ "\x7bq:urlEncode\x7d")

def searchItems : List Item :=
  [.text searchFront, .slot ⟨"q", [.format "urlEncode"], none, []⟩]

/-- What is searched for looks like a slot. -/
def searchScope : Scope := [.store (Store.empty.add "q" (.string "\x7bq\x7d"))]

theorem isPlain_searchFront : ∀ c ∈ searchFront.toList, Slot.isPlain c = true :=
  List.all_eq_true.1 (by decide)

theorem isText_search : IsText search.url searchItems := by
  have front (rest : List Char) : Slot.Piece searchFront (searchFront.toList ++ '\x7b' :: rest)
      ('\x7b' :: rest) := .plain (by decide) isPlain_searchFront (Path.stops_cons rfl)
  have reference (rest : List Char) :
      Slot.Word (.reference "q") ('q' :: ':' :: rest) (':' :: rest) :=
    ⟨[], _, rfl, nofun, @Slot.Lexeme.name 'q' [] _ rfl nofun (Path.stops_cons rfl)⟩
  have format (size : Nat) (rest : List Char) : Slot.IsModifier size (.format "urlEncode")
      (':' :: ("urlEncode".toList ++ '\x7d' :: rest)) ('\x7d' :: rest) :=
    ⟨_, ⟨[], _, rfl, nofun, @Slot.Lexeme.format 'u' ("rlEncode".toList) _ (by decide) (by decide)
      (by simp [Slot.endsFormat]) (Path.stops_cons rfl)⟩, rfl⟩
  have stop (rest : List Char) : Slot.Word .stop ('\x7d' :: rest) rest :=
    ⟨[], _, rfl, nofun, Slot.lexeme_stop rest⟩
  have hole (size : Nat) : Slot.IsHole size _ _ _ :=
    .mk (reference _) (.cons (format size _) (.nil _)) (.plain (.close (stop [])))
  exact .cons (.text (front _)) (.cons (.slot (hole _)) (.nil []))

theorem build_encoded_url_search :
    render search.url searchScope = .ok (searchFront ++ "%7Bq%7D") ∧
      render (searchFront ++ "%7Bq%7D") searchScope = .ok (searchFront ++ "%7Bq%7D") := by
  have honce : render search.url searchScope = .ok (searchFront ++ "%7Bq%7D") := by
    apply Path.Reader.eq_ok_of
    decide +kernel
  have hitems : ∀ item ∈ searchItems, item.IsEncoding := by
    intro item hitem
    rcases List.mem_cons.1 hitem with rfl | hitem
    · exact .text isPlain_searchFront
    · obtain rfl := List.mem_singleton.1 hitem
      exact .slot "q" []
  exact ⟨honce, (build_encoded_url isText_search hitems honce).1⟩

end RequestTemplate

end Stencil
