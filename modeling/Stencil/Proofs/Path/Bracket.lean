import Stencil.Proofs.Path.Parse
import Stencil.Proofs.Path.Reads
import Stencil.Proofs.Path.Tokens

/-!
# Brackets

What is read in a bracket is what the grammar has there, and everything that it has is read.
-/

namespace Stencil.Path

open Reader (bind_eq_ok)

section

variable {r s u : Reader} {sel : Selector} {rest : List Char}

/-- A closing bracket was read, or is there to be read. -/
def Closes (b : Mode) (r s : Reader) : Prop :=
  s.Is .endFilter b.closed ∧ Mark .longest true .endFilter r.rest s.rest

theorem string_reads (hr : r.Is .string b) (hb : b.inBracket = true) (h : r.read = (.ok true, u)) :
    u.Is .string b ∧ Further (IsString .longest) u.text r.rest u.rest ∨ Closes b r u := by
  obtain ⟨comma, t, n, hf, hu, hentry, -⟩ := Reader.reads_sound hr h
  rcases hf.string hb with ⟨rfl, rfl, rfl⟩ | ⟨rfl, rfl, rfl⟩
  · obtain ⟨mid, hcomma, hword⟩ := hentry
    exact .inl ⟨hu, mid, hcomma, _, hword, rfl⟩
  · rw [Mode.inside_of_inBracket hb] at hentry
    exact .inr ⟨hu, _, hentry⟩

theorem readNames_sound {names : List String} (hr : r.Is .string b) (hb : b.inBracket = true)
    (h : readNames names r = .ok (sel, s)) :
    ∃ more mid, sel = .names (names ++ more) ∧ Many (Further (IsString .longest)) more r.rest mid ∧
      Mark .longest true .endFilter mid s.rest ∧ s.Is .endFilter b.closed := by
  fun_induction readNames names r with
  | case1 => cases h
  | case2 names r u hn ht ih =>
    rcases string_reads hr hb (Reader.next_eq_ok.1 hn) with ⟨hu, hitem⟩ | ⟨hu, -⟩
    · obtain ⟨more, mid, rfl, hmore, hend, hs⟩ := ih hu h
      exact ⟨u.text :: more, mid, by rw [List.append_assoc]; rfl, .cons hitem hmore, hend, hs⟩
    · cases hu.of_token ht
  | case3 names r u hn ht =>
    cases h
    rcases string_reads hr hb (Reader.next_eq_ok.1 hn) with ⟨hu, -⟩ | ⟨hu, hend⟩
    · cases hu.of_token ht
    · exact ⟨[], r.rest, by rw [List.append_nil], .nil _, hend, hu⟩
  | case4 => cases h

theorem reads_string (hr : r.Is .string b) (hb : b.inBracket = true) {x : String}
    (h : Further (IsString .longest) x r.rest rest) :
    ∃ u, r.read = (.ok true, u) ∧ u.Is .string b ∧ u.text = x ∧ u.rest = rest := by
  obtain ⟨mid, hcomma, lexeme, hword, rfl⟩ := h
  obtain ⟨u, hread, hu, rfl, rfl⟩ := Reader.reads_complete hr (.further (.inl rfl) hb)
    ⟨mid, hcomma, hword⟩ trivial nofun
  exact ⟨u, hread, hu, rfl, rfl⟩

theorem reads_closing (hr : r.Is a b) (hb : b.inBracket = true)
    (ha : a.isLiteral ∨ a = .wildcard ∨ a = .slice)
    (h : Mark .longest true .endFilter r.rest rest) :
    ∃ u, r.read = (.ok true, u) ∧ u.Is .endFilter b.closed ∧ u.rest = rest := by
  obtain ⟨lexeme, hword⟩ := h
  rw [← Mode.inside_of_inBracket hb] at hword
  have closing : (a.isLiteral ∨ a = .wildcard) ∧ b.inBracket = true ∨
      a = .slice ∨ a = .endExpression := by
    rcases ha with ha | ha | ha
    · exact .inl ⟨.inl ha, hb⟩
    · exact .inl ⟨.inr ha, hb⟩
    · exact .inr (.inl ha)
  obtain ⟨u, hread, hu, -, rfl⟩ := Reader.reads_complete hr (.closing closing) hword trivial nofun
  exact ⟨u, hread, hu, rfl⟩

theorem readNames_next {names : List String} (h : r.read = (.ok true, u)) :
    readNames names r =
      match u.token with
      | some .string => readNames (names ++ [u.text]) u
      | some .endFilter => .ok (.names names, u)
      | _ => .error u.unexpected := by
  have hn : r.next "']'" = .ok u := Reader.next_eq_ok.2 h
  rw [readNames]
  split
  · next he => cases he.symm.trans hn
  · next he =>
    cases he.symm.trans hn
    rfl

theorem readNames_complete {more : List String} {mid : List Char} (names : List String)
    (hr : r.Is .string b) (hb : b.inBracket = true)
    (h : Many (Further (IsString .longest)) more r.rest mid)
    (hend : Mark .longest true .endFilter mid rest) :
    ∃ s, readNames names r = .ok (.names (names ++ more), s) ∧ s.Is .endFilter b.closed ∧
      s.rest = rest := by
  induction more generalizing r names with
  | nil =>
    cases h
    obtain ⟨u, hread, hu, hrest⟩ := reads_closing hr hb (.inl (.inl rfl)) hend
    refine ⟨u, ?_, hu, hrest⟩
    rw [readNames_next hread, hu.token, List.append_nil]
  | cons x more ih =>
    cases h with
    | cons hitem hmore =>
      obtain ⟨u, hread, hu, rfl, rfl⟩ := reads_string hr hb hitem
      obtain ⟨s, hs, hclosed, hrest⟩ := ih (names ++ [u.text]) hu hmore
      refine ⟨s, ?_, hclosed, hrest⟩
      rw [readNames_next hread, hu.token]
      exact hs.trans (by rw [List.append_assoc]; rfl)

theorem index_of_isSome (h : (Text.int? r.lexeme).isSome = true) :
    Text.int? r.lexeme = some r.index := by
  obtain ⟨i, hi⟩ := Option.isSome_iff_exists.1 h
  unfold Reader.index
  rw [hi]
  rfl

theorem index_of_eq {i : Int} (h : Text.int? r.lexeme = some i) : r.index = i := by
  unfold Reader.index
  rw [h]
  rfl

theorem number_reads (hr : r.Is .number b) (hb : b.inBracket = true) (h : r.read = (.ok true, u)) :
    u.Is .number b ∧ Further (IsIndex .longest) u.index r.rest u.rest ∨
      u.Is .slice b ∧ Mark .longest true .slice r.rest u.rest ∨ Closes b r u := by
  obtain ⟨comma, t, n, hf, hu, hentry, fits⟩ := Reader.reads_sound hr h
  rcases hf.number hb with ⟨rfl, rfl, rfl⟩ | ⟨rfl, ⟨rfl, rfl⟩ | ⟨rfl, rfl⟩⟩
  · obtain ⟨mid, hcomma, hword⟩ := hentry
    have whole := fits rfl (Mode.ne_list_of_inBracket hb)
    exact .inl ⟨hu, mid, hcomma, _, hword, index_of_isSome whole⟩
  · rw [Mode.inside_of_inBracket hb] at hentry
    exact .inr (.inl ⟨hu, _, hentry⟩)
  · rw [Mode.inside_of_inBracket hb] at hentry
    exact .inr (.inr ⟨hu, _, hentry⟩)

theorem reads_index (hr : r.Is .number b) (hb : b.inBracket = true) {i : Int}
    (h : Further (IsIndex .longest) i r.rest rest) (hrest : Stops isNumberPart rest) :
    ∃ u, r.read = (.ok true, u) ∧ u.Is .number b ∧ u.index = i ∧ u.rest = rest := by
  obtain ⟨mid, hcomma, lexeme, hword, hi⟩ := h
  obtain ⟨u, hread, hu, rfl, rfl⟩ := Reader.reads_complete hr (.further (.inr rfl) hb)
    ⟨mid, hcomma, hword⟩ hrest fun _ _ => by rw [hi]; rfl
  exact ⟨u, hread, hu, index_of_eq hi, rfl⟩

theorem readIndexList_sound {is : List Int} (hr : r.Is .number b) (hb : b.inBracket = true)
    (h : readIndexList is r = .ok (sel, s)) :
    ∃ more mid, sel = .indices (is ++ more) ∧ Many (Further (IsIndex .longest)) more r.rest mid ∧
      Mark .longest true .endFilter mid s.rest ∧ s.Is .endFilter b.closed := by
  fun_induction readIndexList is r with
  | case1 => cases h
  | case2 is r u hn ht ih =>
    rcases number_reads hr hb (Reader.next_eq_ok.1 hn) with ⟨hu, hitem⟩ | ⟨hu, -⟩ | ⟨hu, -⟩
    · obtain ⟨more, mid, rfl, hmore, hend, hs⟩ := ih hu h
      exact ⟨u.index :: more, mid, by rw [List.append_assoc]; rfl, .cons hitem hmore, hend, hs⟩
    · cases hu.of_token ht
    · cases hu.of_token ht
  | case3 is r u hn ht =>
    cases h
    rcases number_reads hr hb (Reader.next_eq_ok.1 hn) with ⟨hu, -⟩ | ⟨hu, -⟩ | ⟨hu, hend⟩
    · cases hu.of_token ht
    · cases hu.of_token ht
    · exact ⟨[], r.rest, by rw [List.append_nil], .nil _, hend, hu⟩
  | case4 => cases h

theorem readIndexList_next {is : List Int} (h : r.read = (.ok true, u)) :
    readIndexList is r =
      match u.token with
      | some .number => readIndexList (is ++ [u.index]) u
      | some .endFilter => .ok (.indices is, u)
      | _ => .error u.unexpected := by
  have hn : r.next "']'" = .ok u := Reader.next_eq_ok.2 h
  rw [readIndexList]
  split
  · next he => cases he.symm.trans hn
  · next he =>
    cases he.symm.trans hn
    rfl

theorem readIndexList_complete {more : List Int} {mid : List Char} (is : List Int)
    (hr : r.Is .number b) (hb : b.inBracket = true)
    (h : Many (Further (IsIndex .longest)) more r.rest mid)
    (hend : Mark .longest true .endFilter mid rest) :
    ∃ s, readIndexList is r = .ok (.indices (is ++ more), s) ∧ s.Is .endFilter b.closed ∧
      s.rest = rest := by
  have stops : Stops isNumberPart mid := hend.stops rfl rfl rfl
  induction more generalizing r is with
  | nil =>
    cases h
    obtain ⟨u, hread, hu, hrest⟩ := reads_closing hr hb (.inl (.inr rfl)) hend
    refine ⟨u, ?_, hu, hrest⟩
    rw [readIndexList_next hread, hu.token, List.append_nil]
  | cons i more ih =>
    cases h with
    | cons hitem hmore =>
      obtain ⟨u, hread, hu, rfl, rfl⟩ := reads_index hr hb hitem (hmore.stops_further stops rfl rfl)
      obtain ⟨s, hs, hclosed, hrest⟩ := ih (is ++ [u.index]) hu hmore
      refine ⟨s, ?_, hclosed, hrest⟩
      rw [readIndexList_next hread, hu.token]
      exact hs.trans (by rw [List.append_assoc]; rfl)

theorem colon_reads (hr : r.Is .slice b) (hb : b.inBracket = true) (h : r.read = (.ok true, u)) :
    u.Is .number b ∧ IsIndex .longest u.index r.rest u.rest ∨ Closes b r u := by
  obtain ⟨comma, t, n, hf, hu, hentry, fits⟩ := Reader.reads_sound hr h
  rcases hf.colon with ⟨rfl, ⟨rfl, rfl⟩ | ⟨rfl, rfl⟩⟩ <;> rw [Mode.inside_of_inBracket hb] at hentry
  · exact .inl ⟨hu, _, hentry, index_of_isSome (fits rfl rfl)⟩
  · exact .inr ⟨hu, _, hentry⟩

theorem readSlice_sound {start : Option Int} (hr : r.Is .slice b) (hb : b.inBracket = true)
    (h : readSlice start r = .ok (sel, s)) :
    ∃ stop mid, sel = .slice start stop ∧ Maybe (IsIndex .longest) stop r.rest mid ∧
      Mark .longest true .endFilter mid s.rest ∧ s.Is .endFilter b.closed := by
  unfold readSlice at h
  obtain ⟨u, hn, h⟩ := bind_eq_ok h
  have hread := colon_reads hr hb (Reader.next_eq_ok.1 hn)
  split at h
  · next ht =>
    cases h
    rcases hread with ⟨hu, -⟩ | ⟨hu, hend⟩
    · cases hu.of_token ht
    · exact ⟨none, r.rest, rfl, .none _, hend, hu⟩
  · next ht =>
    obtain ⟨v, hv, h⟩ := bind_eq_ok h
    cases h
    rcases hread with ⟨hu, hindex⟩ | ⟨hu, -⟩
    · obtain ⟨hv, ht⟩ := Reader.nextToken_eq_ok.1 hv
      rcases number_reads hu hb hv with ⟨hs, -⟩ | ⟨hs, -⟩ | ⟨hs, hend⟩
      · cases hs.of_token ht
      · cases hs.of_token ht
      · exact ⟨some u.index, u.rest, rfl, .some hindex, hend, hs⟩
    · cases hu.of_token ht
  · cases h

theorem readSlice_complete {stop : Option Int} {mid : List Char} (start : Option Int)
    (hr : r.Is .slice b) (hb : b.inBracket = true)
    (h : Maybe (IsIndex .longest) stop r.rest mid)
    (hend : Mark .longest true .endFilter mid rest) :
    ∃ s, readSlice start r = .ok (.slice start stop, s) ∧ s.Is .endFilter b.closed ∧
      s.rest = rest := by
  unfold readSlice
  cases h with
  | none =>
    obtain ⟨u, hread, hu, hrest⟩ := reads_closing hr hb (.inr (.inr rfl)) hend
    refine ⟨u, ?_, hu, hrest⟩
    rw [Reader.next_eq_ok.2 hread]
    simp only [bind, Except.bind, hu.token]
    rfl
  | @some i _ _ hindex =>
    obtain ⟨lexeme, hword, hi⟩ := hindex
    rw [← Mode.inside_of_inBracket hb] at hword
    obtain ⟨u, hread, hu, rfl, rfl⟩ := Reader.reads_complete hr .stop hword
      (hend.stops rfl rfl rfl) fun _ _ => by rw [hi]; rfl
    obtain ⟨v, hread', hv, hrest⟩ := reads_closing hu hb (.inl (.inr rfl)) hend
    refine ⟨v, ?_, hv, hrest⟩
    rw [Reader.next_eq_ok.2 hread]
    simp only [bind, Except.bind, hu.token]
    rw [Reader.nextToken_eq_ok.2 ⟨hread', hv.token⟩, index_of_eq hi]
    rfl

theorem readIndices_sound_number {cs : List Char} (hr : r.Is .number b) (hb : b.inBracket = true)
    (hfirst : IsIndex .longest r.index cs r.rest) (h : readIndices r = .ok (sel, s)) :
    IsBracket .longest sel cs s.rest ∧ s.Is .endFilter b.closed := by
  unfold readIndices at h
  rw [if_neg (by rw [hr.token]; nofun)] at h
  obtain ⟨u, hn, h⟩ := bind_eq_ok h
  have hread := number_reads hr hb (Reader.next_eq_ok.1 hn)
  split at h
  · next ht =>
    cases h
    rcases hread with ⟨hu, -⟩ | ⟨hu, -⟩ | ⟨hu, hend⟩
    · cases hu.of_token ht
    · cases hu.of_token ht
    · exact ⟨.index hfirst hend, hu⟩
  · next ht =>
    rcases hread with ⟨hu, hitem⟩ | ⟨hu, -⟩ | ⟨hu, -⟩
    · obtain ⟨more, mid, rfl, hmore, hend, hs⟩ := readIndexList_sound hu hb h
      exact ⟨.indices (.mk hfirst (.cons hitem hmore)) hend, hs⟩
    · cases hu.of_token ht
    · cases hu.of_token ht
  · next ht =>
    rcases hread with ⟨hu, -⟩ | ⟨hu, hcolon⟩ | ⟨hu, -⟩
    · cases hu.of_token ht
    · obtain ⟨stop, mid, rfl, hstop, hend, hs⟩ := readSlice_sound hu hb h
      exact ⟨.slice (.some hfirst) hcolon hstop hend, hs⟩
    · cases hu.of_token ht
  · cases h

theorem readIndices_complete_number {is : List Int} {mid : List Char} (hr : r.Is .number b)
    (hb : b.inBracket = true) (h : Many (Further (IsIndex .longest)) is r.rest mid)
    (hend : Mark .longest true .endFilter mid rest) :
    ∃ s, readIndices r =
        .ok (match is with | [] => .index r.index | is => .indices (r.index :: is), s) ∧
      s.Is .endFilter b.closed ∧ s.rest = rest := by
  unfold readIndices
  rw [if_neg (by rw [hr.token]; nofun)]
  cases h with
  | nil =>
    obtain ⟨u, hread, hu, hrest⟩ := reads_closing hr hb (.inl (.inr rfl)) hend
    refine ⟨u, ?_, hu, hrest⟩
    rw [Reader.next_eq_ok.2 hread]
    simp only [bind, Except.bind, hu.token]
    rfl
  | @cons i is _ _ _ hitem hmore =>
    have stops : Stops isNumberPart mid := hend.stops rfl rfl rfl
    obtain ⟨u, hread, hu, rfl, rfl⟩ := reads_index hr hb hitem (hmore.stops_further stops rfl rfl)
    obtain ⟨s, hs, hclosed, hrest⟩ := readIndexList_complete [r.index, u.index] hu hb hmore hend
    refine ⟨s, ?_, hclosed, hrest⟩
    rw [Reader.next_eq_ok.2 hread]
    simp only [bind, Except.bind, hu.token]
    exact hs

theorem readIndices_complete_slice {stop : Option Int} {first mid : List Char}
    (hr : r.Is .number b) (hb : b.inBracket = true)
    (hcolon : Mark .longest true .slice r.rest first)
    (h : Maybe (IsIndex .longest) stop first mid) (hend : Mark .longest true .endFilter mid rest) :
    ∃ s, readIndices r = .ok (.slice (some r.index) stop, s) ∧ s.Is .endFilter b.closed ∧
      s.rest = rest := by
  obtain ⟨lexeme, hword⟩ := hcolon
  rw [← Mode.inside_of_inBracket hb] at hword
  obtain ⟨u, hread, hu, -, rfl⟩ := Reader.reads_complete hr (.slice hb) hword trivial nofun
  obtain ⟨s, hs, hclosed, hrest⟩ := readSlice_complete (some r.index) hu hb h hend
  refine ⟨s, ?_, hclosed, hrest⟩
  unfold readIndices
  rw [if_neg (by rw [hr.token]; nofun), Reader.next_eq_ok.2 hread]
  simp only [bind, Except.bind, hu.token]
  exact hs

/-! ## Steps -/

theorem filterStart_reads (hr : r.Is .startFilter b) (hb : b.inBracket = true)
    (h : r.read = (.ok true, u)) :
    u.Is .string b ∧ IsString .longest u.text r.rest u.rest ∨
      u.Is .number b ∧ IsIndex .longest u.index r.rest u.rest ∨
      u.Is .slice b ∧ Mark .longest true .slice r.rest u.rest ∨
      u.Is .wildcard b ∧ Mark .longest true .wildcard r.rest u.rest ∨
      b.inExpression = false ∧ u.Is .startExpression .operand ∧
        Mark .longest true .startExpression r.rest u.rest := by
  obtain ⟨comma, t, n, hf, hu, hentry, fits⟩ := Reader.reads_sound hr h
  rcases hf.startFilter with ⟨rfl, ⟨(rfl | rfl) | rfl | rfl, rfl⟩ | ⟨hm, rfl, rfl⟩⟩ <;>
    rw [Mode.inside_of_inBracket hb] at hentry
  · exact .inl ⟨hu, _, hentry, rfl⟩
  · exact .inr (.inl ⟨hu, _, hentry, index_of_isSome (fits rfl rfl)⟩)
  · exact .inr (.inr (.inl ⟨hu, _, hentry⟩))
  · exact .inr (.inr (.inr (.inl ⟨hu, _, hentry⟩)))
  · exact .inr (.inr (.inr (.inr ⟨hm, hu, _, hentry⟩)))

theorem readStep_filter (hr : r.token = some .startFilter) (hread : r.read = (.ok true, u)) :
    readStep r = (match u.token with
      | some .string => do
        let (s, r) ← readNames [u.text] u
        return (.selector s, r)
      | some .number | some .slice => do
        let (s, r) ← readIndices u
        return (.selector s, r)
      | some .wildcard => do
        let r ← u.nextToken .endFilter
        return (.selector .children, r)
      | some .startExpression => return (.expression, u)
      | _ => throw u.unexpected) := by
  have hn : r.next "filter" = .ok u := Reader.next_eq_ok.2 hread
  unfold readStep
  rw [hr]
  rcases ht : u.token with _ | t
  · simp only [hn, bind, Except.bind, ht]
  · cases t <;> simp only [hn, bind, Except.bind, ht]

theorem readStep_filter_sound {step : Step} (hr : r.Is .startFilter b) (hb : b.inBracket = true)
    (h : readStep r = .ok (step, s)) :
    match step with
    | .selector sel => IsBracket .longest sel r.rest s.rest ∧ s.Is .endFilter b.closed
    | .expression => b.inExpression = false ∧ s.Is .startExpression .operand ∧
        Mark .longest true .startExpression r.rest s.rest := by
  have hread : ∃ u, r.read = (.ok true, u) := by
    unfold readStep at h
    rw [hr.token] at h
    obtain ⟨u, hn, -⟩ := bind_eq_ok h
    exact ⟨u, Reader.next_eq_ok.1 hn⟩
  obtain ⟨u, hread⟩ := hread
  rw [readStep_filter hr.token hread] at h
  rcases filterStart_reads hr hb hread with
    ⟨hu, hx⟩ | ⟨hu, hx⟩ | ⟨hu, hx⟩ | ⟨hu, hx⟩ | ⟨hm, hu, hx⟩ <;>
    rw [hu.token] at h
  · obtain ⟨⟨sel, v⟩, hv, h⟩ := bind_eq_ok h
    cases h
    obtain ⟨more, mid, rfl, hmore, hend, hs⟩ := readNames_sound hu hb hv
    exact ⟨.names (.mk hx hmore) hend, hs⟩
  · obtain ⟨⟨sel, v⟩, hv, h⟩ := bind_eq_ok h
    cases h
    exact readIndices_sound_number hu hb hx hv
  · obtain ⟨⟨sel, v⟩, hv, h⟩ := bind_eq_ok h
    cases h
    unfold readIndices at hv
    rw [if_pos hu.token] at hv
    obtain ⟨stop, mid, rfl, hstop, hend, hs⟩ := readSlice_sound hu hb hv
    exact ⟨.slice (.none _) hx hstop hend, hs⟩
  · obtain ⟨v, hv, h⟩ := bind_eq_ok h
    cases h
    obtain ⟨comma, t, n, hf, hs, hentry, -⟩ := Reader.reads_sound hu (Reader.nextToken_eq_ok.1 hv).1
    obtain ⟨rfl, rfl, rfl⟩ := hf.wildcard hb
    rw [Mode.inside_of_inBracket hb] at hentry
    exact ⟨.wildcard hx ⟨_, hentry⟩, hs⟩
  · cases h
    exact ⟨hm, hu, hx⟩

theorem reads_content {lexeme : List Char} (hr : r.Is .startFilter b) (hb : b.inBracket = true)
    (ht : t.isLiteral ∨ t = .slice ∨ t = .wildcard) (h : Word .longest true t lexeme r.rest rest)
    (hrest : t.Bounded rest) (hfits : t = .number → (Text.int? lexeme).isSome = true) :
    ∃ u, r.read = (.ok true, u) ∧ u.Is t b ∧ u.lexeme = lexeme ∧ u.rest = rest := by
  rw [← Mode.inside_of_inBracket hb] at h
  exact Reader.reads_complete hr (.content ht) h hrest fun ht _ => hfits ht

theorem reads_first_index {i : Int} {mid : List Char} (hr : r.Is .startFilter b)
    (hb : b.inBracket = true) (h : IsIndex .longest i r.rest mid) (hmid : Stops isNumberPart mid) :
    ∃ u, u.Is .number b ∧ u.index = i ∧ u.rest = mid ∧
      ∀ sel s, readIndices u = .ok (sel, s) → readStep r = .ok (.selector sel, s) := by
  obtain ⟨lexeme, hword, hi⟩ := h
  obtain ⟨u, hread, hu, rfl, hrest⟩ := reads_content hr hb (.inl (.inr rfl)) hword hmid
    fun _ => by rw [hi]; rfl
  refine ⟨u, hu, index_of_eq hi, hrest, fun sel s hs => ?_⟩
  rw [readStep_filter hr.token hread, hu.token]
  simp only [hs, bind, Except.bind]
  rfl

theorem readStep_filter_complete (hr : r.Is .startFilter b) (hb : b.inBracket = true)
    (h : IsBracket .longest sel r.rest rest) :
    ∃ s, readStep r = .ok (.selector sel, s) ∧ s.Is .endFilter b.closed ∧ s.rest = rest := by
  cases h with
  | @names names _ mid _ hnames hend =>
    cases hnames with
    | mk hfirst hmore =>
      obtain ⟨lexeme, hword, rfl⟩ := hfirst
      obtain ⟨u, hread, hu, rfl, rfl⟩ := reads_content hr hb (.inl (.inl rfl)) hword trivial nofun
      obtain ⟨s, hs, hclosed, hrest⟩ := readNames_complete [u.text] hu hb hmore hend
      refine ⟨s, ?_, hclosed, hrest⟩
      rw [readStep_filter hr.token hread, hu.token]
      simp only [hs, bind, Except.bind]
      rfl
  | index hindex hend =>
    obtain ⟨u, hu, rfl, rfl, hstep⟩ := reads_first_index hr hb hindex (hend.stops rfl rfl rfl)
    obtain ⟨s, hs, hclosed, hrest⟩ := readIndices_complete_number hu hb (.nil _) hend
    exact ⟨s, hstep _ s hs, hclosed, hrest⟩
  | indices hindices hend =>
    cases hindices with
    | mk hfirst hmore =>
      obtain ⟨u, hu, rfl, rfl, hstep⟩ := reads_first_index hr hb hfirst
        (hmore.stops_further (hend.stops rfl rfl rfl) rfl rfl)
      obtain ⟨s, hs, hclosed, hrest⟩ := readIndices_complete_number hu hb hmore hend
      exact ⟨s, hstep _ s hs, hclosed, hrest⟩
  | slice hstart hcolon hstop hend =>
    cases hstart with
    | none =>
      obtain ⟨lexeme, hword⟩ := hcolon
      obtain ⟨u, hread, hu, -, rfl⟩ := reads_content hr hb (.inr (.inl rfl)) hword trivial nofun
      obtain ⟨s, hs, hclosed, hrest⟩ := readSlice_complete none hu hb hstop hend
      refine ⟨s, ?_, hclosed, hrest⟩
      rw [readStep_filter hr.token hread, hu.token]
      unfold readIndices
      rw [if_pos hu.token]
      simp only [hs, bind, Except.bind]
      rfl
    | some hindex =>
      obtain ⟨u, hu, rfl, rfl, hstep⟩ := reads_first_index hr hb hindex (hcolon.stops rfl rfl rfl)
      obtain ⟨s, hs, hclosed, hrest⟩ := readIndices_complete_slice hu hb hcolon hstop hend
      exact ⟨s, hstep _ s hs, hclosed, hrest⟩
  | wildcard hstar hend =>
    obtain ⟨lexeme, hword⟩ := hstar
    obtain ⟨u, hread, hu, -, rfl⟩ := reads_content hr hb (.inr (.inr rfl)) hword trivial nofun
    obtain ⟨s, hread', hclosed, hrest⟩ := reads_closing hu hb (.inr (.inl rfl)) hend
    refine ⟨s, ?_, hclosed, hrest⟩
    rw [readStep_filter hr.token hread, hu.token]
    simp only [Reader.nextToken_eq_ok.2 ⟨hread', hclosed.token⟩, bind, Except.bind]
    rfl

end

end Stencil.Path
