import Stencil.Yaml.Lexer

/-!
# Nodes

The tokens of one document as a tree. An alias stands for the node that carries its anchor.
-/

namespace Stencil.Yaml

inductive Node where
  | scalar (tag : Option Tag) (text : String) (plain : Bool)
  | sequence (tag : Option Tag) (items : List Node)
  | mapping (tag : Option Tag) (entries : List (Node × Node))
  /-- An alias inside of the node that it stands for. Such a node has no value. -/
  | cycle
deriving Inhabited

namespace Node

/-- What stands where a value is left out. -/
def absent : Node := .scalar none "" true

/-- A text with a tag, if the tag says more than that. -/
def ofText (tag? : Option Tag) (text : String) (plain : Bool) : Node :=
  .scalar (tag?.filter (· ≠ .unspecific)) text plain

/-- The tokens that are left, and the nodes with anchors, the last one first. -/
structure Rest where
  tokens : List Token
  anchored : List (String × Node)

/-- The anchor and the tag in front of a node, in either order. -/
def properties : List Token → Option String × Option Tag × List Token
  | .anchor a :: .tag t :: ts => (some a, some t, ts)
  | .tag t :: .anchor a :: ts => (some a, some t, ts)
  | .anchor a :: ts => (some a, none, ts)
  | .tag t :: ts => (none, some t, ts)
  | ts => (none, none, ts)

/-- Where a node stands. -/
inductive Place where
  | flow
  | block
  /-- The value of a block mapping, in which a sequence need not be indented. -/
  | blockValue
deriving DecidableEq

/-- Pass a token. -/
def Rest.next (r : Rest) : Rest := { r with tokens := r.tokens.tail }

/-- How deep collections may nest. -/
def maxDepth : Nat := 128

/-- Whether a token starts a node, so that none is left out in front of it. -/
def startsContent : List Token → Bool
  | .scalar _ _ :: _ | .flowSequenceStart :: _ | .flowMappingStart :: _ | .blockSequenceStart :: _
  | .blockMappingStart :: _ => true
  | _ => false

/-- Pass the comma behind an item; none comes in front of the first and of the end. -/
def separated (first : Bool) (last : Token) (r : Rest) : Option Rest :=
  match r.tokens with
  | t :: _ => if first ∨ t = last then some r else if t = .flowEntry then some r.next else none
  | [] => none

mutual

/-- A node. The fuel bounds the number of calls and the depth the nesting. -/
def node (fuel depth : Nat) (place : Place) (r : Rest) : Option (Node × Rest) :=
  match fuel with
  | 0 => none
  | fuel + 1 =>
    match r.tokens with
    | .alias name :: ts => (r.anchored.lookup name).map fun n => (n, { r with tokens := ts })
    | _ =>
      let (anchor?, tag?, tokens) := properties r.tokens
      let anchored := (anchor?.map fun a => (a, Node.cycle)).toList ++ r.anchored
      let found := content fuel depth place tag? ⟨tokens, anchored⟩
      match found, anchor? with
      | some (n, r), some a => some (n, { r with anchored := (a, n) :: r.anchored })
      | some (n, r), none => some (n, r)
      | none, some a =>
        if startsContent tokens then none
        else
          let n := ofText tag? "" true
          some (n, ⟨tokens, (a, n) :: r.anchored⟩)
      | none, none =>
        if startsContent tokens || tag?.isNone then none
        else some (ofText tag? "" true, { r with tokens := tokens })
termination_by structural fuel

/-- A node behind its anchor and its tag, none if there is not any. -/
def content (fuel depth : Nat) (place : Place) (tag? : Option Tag) (r : Rest) :
    Option (Node × Rest) :=
  match fuel with
  | 0 => none
  | fuel + 1 =>
    match r.tokens, depth with
    | .scalar text plain :: _, _ => some (ofText tag? text plain, r.next)
    | .blockEntry :: _, depth + 1 =>
      if place = .blockValue then
        (looseItems fuel depth r).map fun (ns, r) => (.sequence tag? ns, r)
      else none
    | .flowSequenceStart :: _, depth + 1 =>
      (flowItems fuel depth true r.next).map fun (ns, r) => (.sequence tag? ns, r)
    | .flowMappingStart :: _, depth + 1 =>
      (flowEntries fuel depth true r.next).map fun (es, r) => (.mapping tag? es, r)
    | .blockSequenceStart :: _, depth + 1 =>
      if place = .flow then none
      else (blockItems fuel depth r.next).map fun (ns, r) => (.sequence tag? ns, r)
    | .blockMappingStart :: _, depth + 1 =>
      if place = .flow then none
      else (blockEntries fuel depth r.next).map fun (es, r) => (.mapping tag? es, r)
    | _, _ => none
termination_by structural fuel

/-- A node, unless one of the given tokens comes next. -/
def nodeUnless (stops : List Token) (fuel depth : Nat) (place : Place) (r : Rest) :
    Option (Node × Rest) :=
  match fuel with
  | 0 => none
  | fuel + 1 =>
    if (r.tokens.head?.map stops.contains).getD false then some (absent, r)
    else node fuel depth place r
termination_by structural fuel

/-- The items of a block sequence up to its end. -/
def blockItems (fuel depth : Nat) (r : Rest) : Option (List Node × Rest) :=
  match fuel with
  | 0 => none
  | fuel + 1 =>
    match r.tokens with
    | .blockEntry :: _ =>
      match nodeUnless [.blockEntry, .blockEnd] fuel depth .block r.next with
      | none => none
      | some (n, r) => (blockItems fuel depth r).map fun (ns, r) => (n :: ns, r)
    | .blockEnd :: _ => some ([], r.next)
    | _ => none
termination_by structural fuel

/-- The items of a sequence that is not indented. -/
def looseItems (fuel depth : Nat) (r : Rest) : Option (List Node × Rest) :=
  match fuel with
  | 0 => none
  | fuel + 1 =>
    match r.tokens with
    | .blockEntry :: _ =>
      match nodeUnless [.blockEntry, .key, .value, .blockEnd] fuel depth .block r.next with
      | none => none
      | some (n, r) => (looseItems fuel depth r).map fun (ns, r) => (n :: ns, r)
    | _ => some ([], r)
termination_by structural fuel

/-- The value behind a key, left out where none of its tokens comes. -/
def valueUnless (stops : List Token) (fuel depth : Nat) (place : Place) (r : Rest) :
    Option (Node × Rest) :=
  match fuel with
  | 0 => none
  | fuel + 1 =>
    match r.tokens with
    | .value :: _ => nodeUnless stops fuel depth place r.next
    | _ => some (absent, r)
termination_by structural fuel

/-- The entries of a block mapping up to its end. -/
def blockEntries (fuel depth : Nat) (r : Rest) : Option (List (Node × Node) × Rest) :=
  match fuel with
  | 0 => none
  | fuel + 1 =>
    match r.tokens with
    | .key :: _ =>
      match nodeUnless [.key, .value, .blockEnd] fuel depth .blockValue r.next with
      | none => none
      | some (k, r) =>
        match valueUnless [.key, .value, .blockEnd] fuel depth .blockValue r with
        | none => none
        | some (v, r) => (blockEntries fuel depth r).map fun (es, r) => ((k, v) :: es, r)
    | .blockEnd :: _ => some ([], r.next)
    | _ => none
termination_by structural fuel

/-- The items of a flow sequence up to its end. A pair among them is a mapping of one entry. -/
def flowItems (fuel depth : Nat) (first : Bool) (r : Rest) : Option (List Node × Rest) :=
  match fuel with
  | 0 => none
  | fuel + 1 =>
    match separated first .flowSequenceEnd r with
    | none => none
    | some r =>
      match r.tokens with
      | .flowSequenceEnd :: _ => some ([], r.next)
      | .key :: _ =>
        match nodeUnless [.value, .flowEntry, .flowSequenceEnd] fuel depth .flow r.next with
        | none => none
        | some (k, r) =>
          match valueUnless [.flowEntry, .flowSequenceEnd] fuel depth .flow r with
          | none => none
          | some (v, r) =>
            (flowItems fuel depth false r).map fun (ns, r) => (.mapping none [(k, v)] :: ns, r)
      | _ =>
        match node fuel depth .flow r with
        | none => none
        | some (n, r) => (flowItems fuel depth false r).map fun (ns, r) => (n :: ns, r)
termination_by structural fuel

/-- The entries of a flow mapping up to its end. A key without a colon has no value. -/
def flowEntries (fuel depth : Nat) (first : Bool) (r : Rest) :
    Option (List (Node × Node) × Rest) :=
  match fuel with
  | 0 => none
  | fuel + 1 =>
    match separated first .flowMappingEnd r with
    | none => none
    | some r =>
      match r.tokens with
      | .flowMappingEnd :: _ => some ([], r.next)
      | .key :: _ =>
        match nodeUnless [.value, .flowEntry, .flowMappingEnd] fuel depth .flow r.next with
        | none => none
        | some (k, r) =>
          match valueUnless [.flowEntry, .flowMappingEnd] fuel depth .flow r with
          | none => none
          | some (v, r) => (flowEntries fuel depth false r).map fun (es, r) => ((k, v) :: es, r)
      | _ =>
        match node fuel depth .flow r with
        | none => none
        | some (k, r) => (flowEntries fuel depth false r).map fun (es, r) => ((k, absent) :: es, r)
termination_by structural fuel

end

/-- The tokens behind the marks that end a document. -/
def skipDocumentEnds : List Token → List Token
  | .documentEnd :: ts => skipDocumentEnds ts
  | ts => ts

def skipDirectives : List Token → List Token
  | .directive :: ts => skipDirectives ts
  | ts => ts

/-- The only document of a stream. A stream without any is a node left out. -/
def ofTokens? (tokens : List Token) : Option Node :=
  let behind := skipDirectives tokens
  let explicit := behind.head? == some .documentStart
  let body := if explicit then behind.tail else tokens
  let startsNext (ts : List Token) : Bool :=
    match ts with
    | [] | .documentStart :: _ | .documentEnd :: _ => true
    | _ => false
  let fuel := 4 * tokens.length + 8
  let found :=
    if (explicit || body.isEmpty) && startsNext body then some (absent, ⟨body, []⟩)
    else node fuel maxDepth .block ⟨body, []⟩
  match found with
  | some (n, r) => if (skipDocumentEnds r.tokens).isEmpty then some n else none
  | none => none

/-- The only document that a text writes. -/
def parse? (text : String) : Option Node := (tokens? text).bind ofTokens?

end Node

end Stencil.Yaml
