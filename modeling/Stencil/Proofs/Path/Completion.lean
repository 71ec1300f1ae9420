import Stencil.Proofs.Path.Failing
import Stencil.Proofs.Path.Prefixes
import Stencil.Proofs.Text.Boundaries

/-!
# Reading on behind an error

A reader can be read from again after a read has failed. The end of the path is reported behind a
complete path exactly if no read before has slipped: none has failed at the end of the text or at a
comma.
-/

namespace Stencil.Path

open Text (byteLength exists_append_of_byteLength_le eq_of_byteLength_le)

namespace Reader

variable {r s u : Reader} {a : Token} {m : Mode} {embedded : Bool} {text : List Char}
  {ds : List Delivery}

/-! ## Repeated reads -/

/-- The reader behind a number of reads, whatever came of them. -/
def after (r : Reader) : Nat → Reader
  | 0 => r
  | n + 1 => (r.after n).read.2

/-- The reader of a path that stands alone or in a longer text. -/
def opened (text : String) (embedded : Bool) : Reader :=
  if embedded then startEmbedded text else start text

/-- The reader of a path of its own, put in such a text. -/
def within (embedded : Bool) (r : Reader) : Reader := if embedded then r.embed else r

theorem gapped_within (embedded : Bool) (r : Reader) :
    (r.within embedded).gapped = r.gapped.within embedded := by
  cases embedded with
  | true => exact gapped_embed r
  | false => rfl

theorem rest_within (embedded : Bool) (r : Reader) : (r.within embedded).rest = r.rest := by
  cases embedded <;> rfl

theorem position_within (embedded : Bool) (r : Reader) :
    (r.within embedded).position = r.position := by
  cases embedded <;> rfl

theorem behindItem_within : (r.within embedded).BehindItem ↔ r.BehindItem := by
  cases embedded <;> exact Iff.rfl

theorem isComplete_within (embedded : Bool) (r : Reader) :
    (r.within embedded).isComplete = r.isComplete := by
  cases embedded <;> rfl

theorem read_within_iff (hr : r.Is a m) :
    (r.within embedded).read = (.ok true, s) ↔
      ∃ u, r.read = (.ok true, u) ∧ s = u.within embedded := by
  cases embedded with
  | true => exact read_embed_iff hr
  | false => exact ⟨fun h => ⟨s, h, rfl⟩, fun ⟨_, h, hs⟩ => hs ▸ h⟩

theorem read_within_end (hr : r.Is a m) (h : (r.within embedded).read = (.ok false, s)) :
    r.isComplete = true ∧ ¬ StartsStep r.rest ∧ s = { r.within embedded with done := true } := by
  cases embedded with
  | true => exact (read_embed_end_iff hr).1 h
  | false =>
    obtain ⟨hc, hrest, hs⟩ := (read_end_complete_iff hr).1 h
    refine ⟨hc, ?_, hs⟩
    rw [hrest]
    rintro (hstep | hstep) <;> cases hstep

theorem opened_eq (text : List Char) (embedded : Bool) :
    opened (String.ofList text) embedded = ⟨text, 0, none, [], .path, false, embedded⟩ := by
  unfold opened startEmbedded start
  rw [String.toList_ofList]
  cases embedded <;> rfl

theorem read_opened_dollar (cs : List Char) (embedded : Bool) :
    (opened (String.ofList ('$' :: cs)) embedded).read =
      (.ok true, (behindRoot cs).within embedded) := by
  cases embedded with
  | true => exact read_startEmbedded_dollar cs
  | false => exact read_start_dollar cs

theorem read_opened (h : (opened (String.ofList text) embedded).read = (.ok true, s)) :
    ∃ cs, text = '$' :: cs := by
  cases embedded with
  | true =>
    obtain ⟨-, cs, rfl, -⟩ := read_startEmbedded h
    exact ⟨cs, rfl⟩
  | false =>
    have hpath := (start_reads h).2
    rw [String.toList_ofList] at hpath
    exact ⟨s.rest, hpath⟩

theorem Delivers.snoc (h : Delivers r ds u) (hread : u.read = (.ok true, s)) :
    Delivers r (ds ++ [s.delivery]) s := by
  induction h with
  | nil r => exact .cons hread (.nil s)
  | cons hfirst _ ih => exact .cons hfirst (ih hread)

end Reader

open Reader

section

variable {text cs : List Char} {embedded : Bool} {r s u : Reader} {ds : List Delivery}

/-! ## Standing in a text -/

/-- The text in front of the reader is a complete path. -/
def BehindPath (text : List Char) (r : Reader) : Prop :=
  ∃ path rest, text = path ++ rest ∧ r.position = byteLength path ∧ Complete path

/-- No path at the start of the text reaches as far as the reader. -/
def BeyondPaths (text : List Char) (r : Reader) : Prop :=
  ∀ path rest, text = path ++ rest → Complete path → byteLength path < r.position

theorem BeyondPaths.not_behindPath (h : BeyondPaths text r) : ¬ BehindPath text r := by
  rintro ⟨path, rest, htext, hposition, complete⟩
  exact Nat.lt_irrefl _ (hposition ▸ h path rest htext complete)

theorem not_behindPath_end {path : String} (hend : r.position = byteLength path.toList)
    (hn : (match (start path).readToEnd with | .ok _ => true | .error _ => false) = false) :
    ¬ BehindPath path.toList r := by
  rintro ⟨front, rest, htext, hposition, n, hcomplete⟩
  obtain rfl := eq_of_byteLength_le htext (Nat.le_of_eq (hend.symm.trans hposition))
  rw [String.ofList_toList] at hcomplete
  rw [hcomplete] at hn
  cases hn

theorem BeyondPaths.of_advances (h : BeyondPaths text r) (hs : r.Advances s) :
    BeyondPaths text s := by
  obtain ⟨front, -, hposition⟩ := hs
  intro path rest htext complete
  have := h path rest htext complete
  omega

/-- How a reader stands as long as none of its reads has slipped. -/
inductive Sound (text : List Char) (embedded : Bool) : Reader → Prop where
  /-- Nothing has been read. -/
  | opened : Sound text embedded (opened (String.ofList text) embedded)
  /-- Tokens have been read, and nothing else. -/
  | reading {cs : List Char} {ds : List Delivery} {u : Reader} : text = '$' :: cs →
    (behindRoot cs).Delivers ds u → Sound text embedded (u.within embedded)
  /-- A read has failed, and so will the next. -/
  | stuck {r : Reader} {e : PathError} : r.read = (.error e, r) → Sound text embedded r
  /-- The end has been reported. -/
  | ended {r : Reader} : r.done = true → BehindPath text r → Sound text embedded r

/-- How a reader stands behind a read that slipped. -/
def Astray (text : List Char) (r : Reader) : Prop :=
  (∃ e, r.read = (.error e, r)) ∨ BeyondPaths text r

theorem Astray.read (h : Astray text r) : Astray text r.read.2 := by
  rcases h with ⟨e, he⟩ | beyond
  · exact .inl ⟨e, by rw [he]; exact he⟩
  · exact .inr (beyond.of_advances (read_advances r))

theorem Sound.reported (h : Sound text embedded r) (hread : r.read = (.ok false, s)) :
    s.done = true ∧ BehindPath text s := by
  cases h with
  | opened =>
    rw [opened_eq] at hread
    exact absurd hread (read_incomplete rfl rfl)
  | @reading cs ds u htext hd =>
    obtain ⟨a, m, hu, -⟩ := hd.is (behindRoot_is cs)
    obtain ⟨hc, hends, rfl⟩ := read_within_end hu hread
    obtain ⟨front, hfront, complete, -⟩ := complete_of_delivers hd hc hends
    refine ⟨rfl, '$' :: front, u.rest, ?_, ?_, complete⟩
    · rw [htext, hfront, List.cons_append]
    · exact (position_within embedded u).trans (position_of_delivers hd hfront)
  | stuck he =>
    rw [he] at hread
    cases hread
  | ended hdone hpath =>
    rw [read_done hdone] at hread
    cases hread
    exact ⟨hdone, hpath⟩

theorem Sound.read (h : Sound text embedded r) (hslip : ¬ r.Slips) :
    Sound text embedded r.read.2 := by
  rcases hread : r.read with ⟨e | _ | _, s⟩
  · exact .stuck (read_error hread hslip)
  · obtain ⟨hdone, hpath⟩ := h.reported hread
    exact .ended hdone hpath
  · cases h with
    | opened =>
      obtain ⟨cs, rfl⟩ := read_opened hread
      rw [read_opened_dollar] at hread
      cases hread
      exact .reading rfl (.nil _)
    | @reading cs ds u htext hd =>
      obtain ⟨a, m, hu, -⟩ := hd.is (behindRoot_is cs)
      obtain ⟨v, hv, rfl⟩ := (read_within_iff hu).1 hread
      exact .reading htext (hd.snoc hv)
    | stuck he =>
      rw [he] at hread
      cases hread
    | ended hdone =>
      rw [read_done hdone] at hread
      cases hread

/-! ## Behind a comma -/

theorem Reader.BehindItem.comma {rest : List Char} (hitem : u.BehindItem)
    (hrest : u.gapped.rest = ',' :: rest) :
    ∃ gap gap', u.rest = gap ++ ',' :: (gap' ++ (u.gapped.pastComma rest).rest) ∧
      (∀ c ∈ gap, (c == ' ') = true) ∧ ∀ c ∈ gap', (c == ' ') = true := by
  rw [hitem.gapped_eq] at hrest
  have hrest : u.rest.dropWhile (· == ' ') = ',' :: rest := hrest
  have blank (text : List Char) : ∀ c ∈ text.takeWhile (· == ' '), (c == ' ') = true :=
    fun c hc => mem_takeWhile (p := (· == ' ')) hc
  refine ⟨u.rest.takeWhile (· == ' '), rest.takeWhile (· == ' '), ?_, blank _, blank _⟩
  have behind : (u.gapped.pastComma rest).rest = rest.dropWhile (· == ' ') := rfl
  rw [behind, List.takeWhile_append_dropWhile, ← hrest, List.takeWhile_append_dropWhile]

theorem Reader.BehindItem.fails {gap gap' more : List Char} (hitem : u.BehindItem)
    (hd : u.done = false) (hrest : u.rest = gap ++ ',' :: (gap' ++ more))
    (hgap : ∀ c ∈ gap, (c == ' ') = true) (hgap' : ∀ c ∈ gap', (c == ' ') = true)
    (hmore : ∀ c, more.head? = some c → c = ',' ∨ c = ']' ∨ c = ':') :
    ∃ e s, u.read = (.error e, s) := by
  have stops : Stops (· == ' ') more := by
    intro c hc
    rcases hmore c hc with rfl | rfl | rfl <;> rfl
  have comma : u.gapped.rest = ',' :: (gap' ++ more) := by
    rw [hitem.gapped_eq]
    have rest_eq : u.skipSpaces.rest = u.rest.dropWhile (· == ' ') := rfl
    rw [rest_eq, hrest, dropWhile_run hgap (stops_cons rfl)]
  have behind : (u.gapped.pastComma (gap' ++ more)).rest = more := dropWhile_run hgap' stops
  obtain ⟨isNumber, hscan⟩ := hitem.gapped.scan
  rw [scanAfterLiteral_comma hitem.gapped comma, scanFurther_nothing] at hscan
  · obtain ⟨e, he⟩ := read_nothing hd hitem.incomplete (by rw [comma]; nofun) hscan
    exact ⟨e, _, he⟩
  · rw [behind]
    intro c hc
    rcases hmore c hc with rfl | rfl | rfl <;> exact ⟨by decide, by decide⟩

theorem Reader.BehindItem.stuck {c : Char} {more : List Char} (hitem : s.BehindItem)
    (hd : s.done = false) (hstops : Stops (· == ' ') s.rest) (hrest : s.rest = c :: more)
    (hc : ¬ (c = ',' ∨ c = ']' ∨ c = ':')) : ∃ e, s.read = (.error e, s) := by
  have same : s.gapped = s := hitem.gapped_eq.trans (skipSpaces_of_stops hstops)
  obtain ⟨isNumber, hscan⟩ := hitem.scan
  rw [scanAfterLiteral_stuck hitem] at hscan
  · exact read_nothing hd hitem.incomplete (by rw [same, hrest]; nofun) (by rw [same, hscan])
  · rw [hrest]
    rintro d ⟨⟩
    simpa only [not_or] using hc

theorem Reader.BehindItem.endsAt {gap more : List Char} (hitem : u.BehindItem)
    (hgap : ∀ c ∈ gap, (c == ' ') = true) :
    ∀ t, u.token = some t → t.EndsAt (gap ++ ',' :: more) := by
  have stops : Stops isNumberPart (gap ++ ',' :: more) := by
    rcases gap with _ | ⟨c, gap⟩
    · exact stops_cons rfl
    · obtain rfl : c = ' ' := by simpa using hgap c List.mem_cons_self
      exact stops_cons rfl
  intro t ht
  rcases hitem.1 with h | h <;> obtain rfl := Option.some.inj (ht.symm.trans h)
  · exact ⟨trivial, trivial⟩
  · exact ⟨stops, trivial⟩

theorem beyondPaths_comma {rest : List Char} (hd : (behindRoot cs).Delivers ds u)
    (hitem : u.BehindItem) (hrest : u.gapped.rest = ',' :: rest)
    (hnext : ∀ c, (u.gapped.pastComma rest).rest.head? = some c → c = ',' ∨ c = ']' ∨ c = ':') :
    BeyondPaths ('$' :: cs) (u.gapped.pastComma rest) := by
  intro path tail htext complete
  obtain ⟨front, hfront, swap⟩ := hd.swap (behindRoot_is cs) trivial
  obtain ⟨gap, gap', hcomma, hgap, hgap'⟩ := hitem.comma hrest
  have passed : u.Advances (u.gapped.pastComma rest) :=
    (advances_gapped u).trans (advances_pastComma _ hrest)
  generalize u.gapped.pastComma rest = s at hnext hcomma passed ⊢
  have position : s.position = byteLength ('$' :: (front ++ (gap ++ ',' :: gap'))) := by
    have between : u.rest = (gap ++ ',' :: gap') ++ s.rest := by simpa using hcomma
    rw [passed.position_eq between, position_of_delivers hd hfront]
    simp only [Text.byteLength_cons, Text.byteLength_append]
    omega
  rw [position]
  refine Nat.lt_of_not_le fun hlength => ?_
  have whole : '$' :: (front ++ (gap ++ ',' :: gap')) ++ s.rest = path ++ tail := by
    have hcs : cs = front ++ u.rest := hfront
    rw [← htext, hcs, hcomma]
    simp
  -- A path that goes beyond the comma delivers the same tokens up to it.
  obtain ⟨more, rfl, hmore⟩ := exists_append_of_byteLength_le whole hlength
  obtain ⟨cs', n, hpath, hn⟩ := complete_iff.1 complete
  obtain rfl : cs' = front ++ (gap ++ ',' :: (gap' ++ more)) := by simpa using hpath.symm
  obtain ⟨-, again⟩ := swap _ (hitem.endsAt hgap)
  have again : (behindRoot (front ++ (gap ++ ',' :: (gap' ++ more)))).Delivers ds
    (u.ahead (gap ++ ',' :: (gap' ++ more))) := again
  obtain ⟨a, m, hu, -⟩ := hd.is (behindRoot_is cs)
  have item : (u.ahead (gap ++ ',' :: (gap' ++ more))).BehindItem := hitem
  obtain ⟨e, v, he⟩ := item.fails hu.done rfl hgap hgap' fun c hc => hnext c (by
    rw [hmore, List.head?_append, hc]
    rfl)
  rw [again.readToEnd, readToEnd_eq, he] at hn
  cases hn

/-! ## Slips -/

theorem beyondPaths_end (hd : (behindRoot cs).Delivers ds u) (hc : u.isComplete = false)
    (hrest : u.gapped.rest = []) : BeyondPaths ('$' :: cs) u.gapped := by
  intro path tail htext complete
  have passed : (behindRoot cs).Advances u.gapped := hd.advances.trans (advances_gapped u)
  have position : u.gapped.position = byteLength ('$' :: cs) := by
    have hcs : (behindRoot cs).rest = cs ++ u.gapped.rest := by
      rw [hrest, List.append_nil]
      rfl
    rw [passed.position_eq hcs, Text.byteLength_cons]
    rfl
  rw [position]
  refine Nat.lt_of_not_le fun hlength => ?_
  obtain rfl := eq_of_byteLength_le htext hlength
  obtain ⟨cs', n, hcs, hn⟩ := complete_iff.1 complete
  obtain rfl := (List.cons.inj hcs).2
  obtain ⟨a, m, hu, -⟩ := hd.is (behindRoot_is cs)
  have broken : u.read = (.error u.gapped.endFault, { u.gapped with done := true }) := by
    rw [read_eq hu.done, hrest, isComplete_gapped, hc]
    rfl
  rw [hd.readToEnd, readToEnd_eq, broken] at hn
  cases hn

/-- Behind a comma that was left out the end is not reported behind a path: either the next read
fails as well, and for good, or no path goes on behind the comma. -/
theorem astray_comma {rest : List Char} (hd : (behindRoot cs).Delivers ds u)
    (hitem : u.BehindItem) (hrest : u.gapped.rest = ',' :: rest) (embedded : Bool) :
    Astray ('$' :: cs) ((u.gapped.pastComma rest).within embedded) := by
  obtain ⟨a, m, hu, -⟩ := hd.is (behindRoot_is cs)
  have item : (u.gapped.pastComma rest).BehindItem := hitem.gapped
  have unread : (u.gapped.pastComma rest).done = false := (done_gapped u).trans hu.done
  have stops : Stops (· == ' ') (u.gapped.pastComma rest).rest := stops_dropWhile _ rest
  have beyond := beyondPaths_comma hd hitem hrest
  generalize u.gapped.pastComma rest = s at item unread stops beyond ⊢
  have reported (hnext : ∀ c, s.rest.head? = some c → c = ',' ∨ c = ']' ∨ c = ':') :
      Astray ('$' :: cs) (s.within embedded) := by
    refine .inr fun path tail htext complete => ?_
    rw [position_within]
    exact beyond hnext path tail htext complete
  rcases hs : s.rest with _ | ⟨c, more⟩
  · exact reported (by rw [hs]; nofun)
  by_cases hc : c = ',' ∨ c = ']' ∨ c = ':'
  · refine reported fun d hd => ?_
    rw [hs] at hd
    cases hd
    exact hc
  · have rest_eq := (rest_within embedded s).trans hs
    rw [← rest_within embedded s] at stops
    have unread : (s.within embedded).done = false := by cases embedded <;> exact unread
    exact .inl ((behindItem_within.2 item).stuck unread stops rest_eq hc)

theorem Sound.slip (h : Sound text embedded r) (hslip : r.Slips) : Astray text r.read.2 := by
  obtain ⟨⟨e, hfails⟩, hwhere⟩ := hslip
  obtain ⟨s, hread⟩ : ∃ s, r.read = (.error e, s) := ⟨_, Prod.ext hfails rfl⟩
  rw [hread]
  cases h with
  | opened =>
    rw [opened_eq] at hread hwhere
    rcases hwhere with hrest | ⟨hitem, -⟩
    · obtain rfl : text = [] := hrest
      refine .inr fun path tail htext complete => ?_
      obtain ⟨cs, n, rfl, -⟩ := complete_iff.1 complete
      cases htext
    · rcases hitem.1 with ht | ht <;> cases ht
  | @reading cs ds u htext hd =>
    subst htext
    rw [gapped_within, rest_within, behindItem_within] at hwhere
    rcases hwhere with hrest | ⟨hitem, hhead⟩
    · obtain ⟨rfl, hc⟩ := read_error_at_end hread (by rw [gapped_within, rest_within, hrest])
      rw [isComplete_within] at hc
      have beyond := beyondPaths_end hd hc hrest
      refine .inr fun path tail htext complete => ?_
      show _ < ((u.within embedded).gapped).position
      rw [gapped_within, position_within]
      exact beyond path tail htext complete
    · obtain ⟨rest, hrest⟩ := List.head?_eq_some_iff.1 hhead
      have hs := read_error_comma hread (behindItem_within.2 hitem)
        (by rw [gapped_within, rest_within, hrest])
      have same : (u.within embedded).gapped.pastComma rest =
          (u.gapped.pastComma rest).within embedded := by
        rw [gapped_within]
        cases embedded <;> rfl
      rw [hs, same]
      exact astray_comma hd hitem hrest embedded
  | stuck he =>
    rw [he] at hread
    cases hread
    exact .inl ⟨_, he⟩
  | ended hdone =>
    rw [read_done hdone] at hread
    cases hread

/-- A reader that has been read from stands well exactly if no read has slipped. -/
theorem sound_or_astray (text : List Char) (embedded : Bool) (n : Nat) :
    (∀ k < n, ¬ ((opened (String.ofList text) embedded).after k).Slips) ∧
        Sound text embedded ((opened (String.ofList text) embedded).after n) ∨
      (∃ k < n, ((opened (String.ofList text) embedded).after k).Slips) ∧
        Astray text ((opened (String.ofList text) embedded).after n) := by
  induction n with
  | zero => exact .inl ⟨nofun, .opened⟩
  | succ n ih =>
    rcases ih with ⟨never, sound⟩ | ⟨⟨k, hk, hslip⟩, astray⟩
    · -- The first slip leads from the one side to the other, and nothing leads back.
      by_cases hslip : ((opened (String.ofList text) embedded).after n).Slips
      · exact .inr ⟨⟨n, Nat.lt_succ_self n, hslip⟩, sound.slip hslip⟩
      · refine .inl ⟨fun k hk => ?_, sound.read hslip⟩
        rcases Nat.lt_succ_iff_lt_or_eq.1 hk with hk | rfl
        · exact never k hk
        · exact hslip
    · exact .inr ⟨⟨k, Nat.lt_succ_of_lt hk, hslip⟩, astray.read⟩

/-- However a reader is read from, a report of the end is right exactly if no read before has
slipped. -/
theorem end_reported_iff (text : String) (embedded : Bool) (n : Nat) (s : Reader)
    (h : ((opened text embedded).after n).read = (.ok false, s)) :
    BehindPath text.toList s ↔ ∀ k < n, ¬ ((opened text embedded).after k).Slips := by
  have both := sound_or_astray text.toList embedded n
  rw [String.ofList_toList] at both
  rcases both with ⟨never, sound⟩ | ⟨⟨k, hk, hslip⟩, astray⟩
  · exact ⟨fun _ => never, fun _ => (sound.reported h).2⟩
  · refine ⟨fun hpath => ?_, fun never => absurd hslip (never k hk)⟩
    rcases astray with ⟨e, he⟩ | beyond
    · rw [he] at h
      cases h
    · have onward := read_advances ((opened text embedded).after n)
      rw [h] at onward
      exact absurd hpath (beyond.of_advances onward).not_behindPath

theorem end_reported_in_longer_text :
    ((opened "$.a b" true).after 3).read =
      (.ok false, ⟨" b".toList, 3, some .propertyName, ['a'], .path, true, true⟩) ∧
    (BehindPath "$.a b".toList ⟨" b".toList, 3, some .propertyName, ['a'], .path, true, true⟩ ↔
      ∀ k < 3, ¬ ((opened "$.a b" true).after k).Slips) := by
  have reported : ((opened "$.a b" true).after 3).read =
      (.ok false, ⟨" b".toList, 3, some .propertyName, ['a'], .path, true, true⟩) := by
    refine Prod.ext (eq_ok_of ?_) ?_ <;> decide +kernel
  exact ⟨reported, end_reported_iff "$.a b" true 3 _ reported⟩

/-- A path that breaks off, and one with an item left out: the error is not the last answer. -/
theorem end_reported_behind_no_path :
    (((opened "$." false).after 3).read =
        (.ok false, ⟨[], 2, some .child, ['.'], .path, true, false⟩) ∧
      ¬ BehindPath "$.".toList ⟨[], 2, some .child, ['.'], .path, true, false⟩) ∧
    ((opened "$['a',]" false).after 5).read =
        (.ok false, ⟨[], 7, some .endFilter, [']'], .path, true, false⟩) ∧
      ¬ BehindPath "$['a',]".toList ⟨[], 7, some .endFilter, [']'], .path, true, false⟩ := by
  refine ⟨⟨?_, ?_⟩, ?_, ?_⟩
  · refine Prod.ext (eq_ok_of ?_) ?_ <;> decide +kernel
  · exact not_behindPath_end rfl (by decide +kernel)
  · refine Prod.ext (eq_ok_of ?_) ?_ <;> decide +kernel
  · exact not_behindPath_end rfl (by decide +kernel)

end

end Stencil.Path
