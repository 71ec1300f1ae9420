import Stencil.Proofs.Path.Delivering
import Stencil.Proofs.Path.Language

/-!
# Paths at the start of a text

The path embedded in a text is the complete path that the text does not continue. No longer piece of
the text is a path, and its tokens are those that it has as a text of its own.
-/

namespace Stencil.Path

open Text (byteLength)

/-- A path can be read to its end. -/
def Complete (path : List Char) : Prop :=
  ∃ n, (Reader.start (String.ofList path)).readToEnd = .ok n

/-- The text behind a path belongs to it: a further step starts there, or the name that the path
ends with goes on. -/
def Continues (path rest : List Char) : Prop :=
  StartsStep rest ∨
    (tokens (String.ofList path)).getLast? = some .propertyName ∧ goesOn rest = true

namespace Reader

/-- Behind the dollar sign of a path. -/
def behindRoot (cs : List Char) : Reader := ⟨cs, 1, some .root, ['$'], .path, false, false⟩

theorem behindRoot_is (cs : List Char) : (behindRoot cs).Is .root .path := ⟨rfl, rfl, rfl, rfl⟩

theorem read_start_dollar (cs : List Char) :
    (start (String.ofList ('$' :: cs))).read = (.ok true, behindRoot cs) := by
  unfold start
  rw [String.toList_ofList]
  rfl

theorem read_startEmbedded_dollar (cs : List Char) :
    (startEmbedded (String.ofList ('$' :: cs))).read = (.ok true, (behindRoot cs).embed) := by
  unfold startEmbedded start
  rw [String.toList_ofList]
  rfl

end Reader

open Reader (behindRoot behindRoot_is read_start_dollar read_startEmbedded_dollar)

theorem complete_iff {path : List Char} :
    Complete path ↔ ∃ cs n, path = '$' :: cs ∧ (behindRoot cs).readToEnd = .ok n := by
  constructor
  · rintro ⟨n, h⟩
    have starts : ∃ cs, path = '$' :: cs := by
      rw [Reader.readToEnd_eq] at h
      split at h
      · cases h
      · next hend => exact absurd hend (Reader.read_incomplete rfl rfl)
      · next s hread =>
        have hpath := (start_reads hread).2
        rw [String.toList_ofList] at hpath
        exact ⟨s.rest, hpath⟩
    obtain ⟨cs, rfl⟩ := starts
    rw [Reader.readToEnd_eq, read_start_dollar] at h
    exact ⟨cs, n, rfl, h⟩
  · rintro ⟨cs, n, rfl, h⟩
    refine ⟨n, ?_⟩
    rw [Reader.readToEnd_eq, read_start_dollar]
    exact h

theorem embeddedLength_iff {text : List Char} {n : Nat} :
    embeddedLength (String.ofList text) = .ok n ↔
      ∃ cs, text = '$' :: cs ∧ (behindRoot cs).embed.readToEnd = .ok n := by
  constructor
  · intro h
    obtain ⟨path, rest, rfl, -⟩ := embeddedLength_eq_ok h
    rw [embeddedLength, Reader.readToEnd_eq, read_startEmbedded_dollar] at h
    exact ⟨_, rfl, h⟩
  · rintro ⟨cs, rfl, h⟩
    rw [embeddedLength, Reader.readToEnd_eq, read_startEmbedded_dollar]
    exact h

section

variable {cs front path : List Char} {ds : List Reader.Delivery} {u : Reader} {b : Token} {n : Mode}

theorem position_of_delivers (hd : (behindRoot cs).Delivers ds u) (hcs : cs = front ++ u.rest) :
    u.position = byteLength ('$' :: front) := by
  rw [hd.advances.position_eq hcs, Text.byteLength_cons]
  rfl

theorem last_of_delivers (hd : (behindRoot cs).Delivers ds u) (hu : u.Is b n)
    (hc : u.isComplete = true) (hrest : u.rest = []) :
    (tokens (String.ofList ('$' :: cs))).getLast? = some b := by
  have none_left : u.tokens = [] := by
    rw [Reader.tokens_eq, (Reader.read_end_complete_iff hu).2 ⟨hc, hrest, rfl⟩]
  have last := hd.getLast?_tokens (behindRoot_is cs) none_left
  rw [tokens, Reader.tokens_eq, read_start_dollar]
  exact last.trans hu.token

theorem endsAt_of_complete {rest : List Char} (hu : u.Is b n) (hc : u.isComplete = true)
    (hname : b = .propertyName → goesOn rest = false) : b.EndsAt rest := by
  obtain ⟨-, node, -⟩ := (Reader.isComplete_iff hu).1 hc
  cases b
  case propertyName => exact ⟨trivial, fun _ => hname rfl⟩
  case root | current | wildcard | endFilter => exact ⟨trivial, trivial⟩
  all_goals cases node

theorem Complete.delivers (h : Complete path) :
    ∃ cs ds u, path = '$' :: cs ∧ (behindRoot cs).Delivers ds u ∧ (∃ b n, u.Is b n) ∧
      u.isComplete = true ∧ u.rest = [] ∧ ∀ rest, ¬ Continues path rest →
        (behindRoot (cs ++ rest)).Delivers ds (u.ahead rest) := by
  obtain ⟨cs, k, rfl, hk⟩ := complete_iff.1 h
  have root := behindRoot_is cs
  obtain ⟨ds, u, hd, hc, hrest, -⟩ := (Reader.readToEnd_eq_ok root).1 hk
  obtain ⟨b, n, hu, -⟩ := hd.is root
  refine ⟨cs, ds, u, rfl, hd, ⟨b, n, hu⟩, hc, hrest, fun rest hends => ?_⟩
  obtain ⟨front, hfront, swap⟩ := hd.swap root trivial
  rw [hrest, List.append_nil] at hfront
  have hfront : cs = front := hfront
  have endsAt : b.EndsAt rest := by
    refine endsAt_of_complete hu hc fun hb => Bool.eq_false_iff.2 fun hgoes => hends (.inr ?_)
    exact ⟨hb ▸ last_of_delivers hd hu hc hrest, hgoes⟩
  rw [hfront]
  refine (swap rest fun t ht => ?_).2
  rw [← hu.of_token ht]
  exact endsAt

theorem complete_of_delivers (hd : (behindRoot cs).Delivers ds u) (hc : u.isComplete = true)
    (hends : ¬ StartsStep u.rest) :
    ∃ front, cs = front ++ u.rest ∧ Complete ('$' :: front) ∧
      ¬ Continues ('$' :: front) u.rest := by
  have root := behindRoot_is cs
  obtain ⟨b, n, hu, hb⟩ := hd.is root
  obtain ⟨front, hfront, swap⟩ := hd.swap root trivial
  obtain ⟨-, alone⟩ := swap [] fun t _ => endsAt_nil t
  rw [List.append_nil] at alone
  have alone : (behindRoot front).Delivers ds (u.ahead []) := alone
  refine ⟨front, hfront, ?_, ?_⟩
  · exact complete_iff.2 ⟨front, u.position, rfl, (Reader.readToEnd_eq_ok (behindRoot_is front)).2
      ⟨ds, u.ahead [], alone, hc, rfl, rfl⟩⟩
  · rintro (hstep | ⟨hname, hgoes⟩)
    · exact hends hstep
    · have last := last_of_delivers alone (hu.ahead []) hc rfl
      obtain rfl : b = .propertyName := Option.some.inj (last.symm.trans hname)
      rw [hb trivial rfl] at hgoes
      cases hgoes

/-! ## The path at the start of a text -/

/-- The length of an embedded path is that of the complete path at the start of the text that the
text does not continue. -/
theorem embeddedLength_eq_ok_iff {text : List Char} {k : Nat} :
    embeddedLength (String.ofList text) = .ok k ↔
      ∃ path rest, text = path ++ rest ∧ byteLength path = k ∧ Complete path ∧
        ¬ Continues path rest := by
  constructor
  · intro h
    obtain ⟨cs, rfl, hk⟩ := embeddedLength_iff.1 h
    obtain ⟨ds, u, hd, hc, hends, rfl⟩ := (Reader.readToEnd_embed_eq_ok (behindRoot_is cs)).1 hk
    obtain ⟨front, hfront, complete, ends⟩ := complete_of_delivers hd hc hends
    refine ⟨'$' :: front, u.rest, ?_, (position_of_delivers hd hfront).symm, complete, ends⟩
    rw [hfront, List.cons_append]
  · rintro ⟨path, rest, rfl, rfl, complete, ends⟩
    obtain ⟨cs, ds, u, rfl, -, -, hc, -, ahead⟩ := complete.delivers
    have hd := ahead rest ends
    have hposition : (u.ahead rest).position = byteLength ('$' :: cs) :=
      position_of_delivers hd rfl
    refine embeddedLength_iff.2 ⟨cs ++ rest, rfl, ?_⟩
    exact (Reader.readToEnd_embed_eq_ok (behindRoot_is (cs ++ rest))).2
      ⟨ds, u.ahead rest, hd, hc, fun hstep => ends (.inl hstep), hposition⟩

theorem Continues.of_head {rest rest' : List Char} (h : Continues path rest')
    (hhead : rest'.head? = rest.head?) : Continues path rest := by
  unfold Continues StartsStep goesOn at *
  rw [← hhead]
  exact h

/-- No longer piece of the text is a complete path. -/
theorem Complete.longest {rest longer : List Char} (h : Complete path)
    (hends : ¬ Continues path rest) (hpath : path <+: longer) (hlonger : longer <+: path ++ rest)
    (hcomplete : Complete longer) : longer = path := by
  obtain ⟨more, rfl⟩ := hpath
  obtain ⟨tail, hrest⟩ := hlonger
  rw [List.append_assoc] at hrest
  have hrest : more ++ tail = rest := List.append_cancel_left hrest
  rcases more with _ | ⟨c, more⟩
  · exact List.append_nil path
  have ends : ¬ Continues path (c :: more) := fun hgoes => hends (hgoes.of_head (by
    rw [← hrest]
    rfl))
  obtain ⟨cs, ds, u, rfl, -, ⟨b, n, hu⟩, hc, -, ahead⟩ := h.delivers
  obtain ⟨cs', k, hcs, hk⟩ := complete_iff.1 hcomplete
  obtain rfl := (List.cons.inj hcs).2
  have hd := ahead (c :: more) ends
  obtain ⟨e, he⟩ := Reader.read_broken (hu.ahead (c :: more)) hc
    (fun hstep => ends (.inl hstep)) (List.cons_ne_nil c more)
  have refused : (u.ahead (c :: more)).readToEnd = .error e := by
    rw [Reader.readToEnd_eq]
    rcases hread : (u.ahead (c :: more)).read with ⟨answer, v⟩
    rw [hread] at he
    obtain rfl : answer = .error e := he
    rfl
  have hk : (behindRoot (cs ++ c :: more)).readToEnd = .ok k := hk
  rw [hd.readToEnd, refused] at hk
  cases hk

theorem Complete.deliveries_embedded {rest : List Char} (h : Complete path)
    (hends : ¬ Continues path rest) :
    (Reader.startEmbedded (String.ofList (path ++ rest))).deliveries =
      (Reader.start (String.ofList path)).deliveries := by
  obtain ⟨cs, ds, u, rfl, hd, ⟨b, n, hu⟩, hc, hrest, ahead⟩ := h.delivers
  have embedded : (behindRoot (cs ++ rest)).embed.deliveries = ds := by
    have hd' := (Reader.delivers_embed_iff (behindRoot_is _)).2 ⟨_, ahead rest hends, rfl⟩
    have hend := (Reader.read_embed_end_iff (hu.ahead rest)).2
      ⟨hc, fun hstep => hends (.inl hstep), rfl⟩
    rw [hd'.deliveries, Reader.deliveries_eq (u.ahead rest).embed, hend, List.append_nil]
  have alone : (behindRoot cs).deliveries = ds := by
    have hend := (Reader.read_end_complete_iff hu).2 ⟨hc, hrest, rfl⟩
    rw [hd.deliveries, Reader.deliveries_eq u, hend, List.append_nil]
  rw [List.cons_append, Reader.deliveries_eq, read_startEmbedded_dollar, Reader.deliveries_eq,
    read_start_dollar]
  dsimp only
  rw [embedded, alone]
  rfl

end

end Stencil.Path
