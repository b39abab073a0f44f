import CaseRunner.Error
import CaseRunner.Yaml.Scalar

/-!
# Reading YAML

Reads the one document of a text. Blocks are laid out by columns: the items of a
list and the names of a mapping stand in one column, behind that of what they
belong to; a list that is the value of a name may stand in the column of the
name. Inside brackets columns do not count.

The readers that call each other have fuel, a few units for each character,
because each of their calls but a few reads at least one.
-/

namespace CaseRunner.Yaml

/-- How far a reader has come. -/
structure State where
  /-- The place in the text. -/
  cursor : Cursor
  /-- The nodes that have been named. -/
  anchors : List (String × Node)

namespace State

/-- The same state at another place. -/
def moveTo (st : State) (c : Cursor) : State := { st with cursor := c }

/-- Names a node. -/
def remember (st : State) (anchor? : Option String) (n : Node) : State :=
  match anchor? with
  | some name => { st with anchors := (name, n) :: st.anchors }
  | none => st

end State

namespace Cursor

/-- The place behind some characters of the line. -/
def skip (c : Cursor) (count : Nat) : Cursor := ⟨c.rest.drop count, c.column + count⟩

/-- Is there nothing more of the document? -/
def atEnd (c : Cursor) : Bool := c.rest.isEmpty || (c.column = 0 && atMarker c.rest)

/-- Does an indicator stand here, with a blank behind it? -/
def hasIndicator (c : Cursor) (indicator : Char) : Bool :=
  match c.rest with
  | d :: rest => d = indicator && atBlank rest
  | [] => false

/-- The place behind the blanks of the line. -/
def skipSpaces (c : Cursor) : Cursor := c.skip (c.rest.takeWhile isSpace).length

/-- Is there nothing more in the line but a comment? -/
def atLineEnd (c : Cursor) : Bool :=
  match c.rest with
  | [] => true
  | d :: _ => d = '\n' || d = '#'

end Cursor

/-- The place behind blanks, line breaks and comments, and whether there is a line
break among them. Tabs count as blanks only if they may stand here; in a new line
outside brackets they may not. -/
def skipGap (inFlow tabs comment crossed : Bool) (column : Nat) :
    List Char → Cursor × Bool
  | [] => (⟨[], column⟩, crossed)
  | c :: rest =>
    if c = '\n' then skipGap inFlow inFlow false true 0 rest
    else if comment || c = ' ' || (c = '\t' && tabs) then
      skipGap inFlow tabs comment crossed (column + 1) rest
    else if c = '#' then skipGap inFlow tabs true crossed (column + 1) rest
    else (⟨c :: rest, column⟩, crossed)

/-- The next thing in a block. -/
def Cursor.next (c : Cursor) (tabs : Bool) : Cursor × Bool :=
  skipGap false tabs false false c.column c.rest

/-- The next thing inside brackets. -/
def Cursor.nextInFlow (c : Cursor) : Except Fault Cursor :=
  let (c, _) := skipGap true true false false c.column c.rest
  if c.rest.isEmpty then .error .unclosed
  else if c.atEnd then .error .unexpected
  else .ok c

/-! ## Names, tags and scalars -/

/-- A character of the name of a node. -/
def isAnchorChar (c : Char) : Bool := c.isAlphanum || c == '_' || c == '-'

/-- The name behind an ampersand or an asterisk. -/
def anchorName (c : Cursor) : Except Fault (String × Cursor) :=
  let name := c.rest.takeWhile isAnchorChar
  let stop := c.skip name.length
  let ends := atBlank stop.rest || (stop.rest.headD 'x') ∈ "?:,]\x7d%@\x60".toList
  if name.isEmpty || !ends then .error .unexpected
  else .ok (String.ofList name, stop)

/-- The tag at an exclamation mark. -/
def tagName (c : Cursor) : Except Fault (String × Cursor) :=
  match c.rest with
  | '!' :: '<' :: rest =>
    let uri := rest.takeWhile fun d => d != '>' && d != '\n'
    if (rest.drop uri.length).head? = some '>' then
      .ok (String.ofList uri, c.skip (uri.length + 3))
    else .error .unexpected
  | rest =>
    let tag := rest.takeWhile fun d => !(isSpace d || d == '\n' || isFlowMark d)
    let stop := c.skip tag.length
    if !atBlank stop.rest && !(stop.rest.head?.any isFlowMark) then .error .unexpected
    else match tag with
      | '!' :: '!' :: name => .ok (coreTag (String.ofList name), stop)
      | name => .ok (String.ofList name, stop)

/-- The name and the tag of a node. -/
structure Properties where
  /-- The name. -/
  anchor : Option String := none
  /-- The tag. -/
  tag : Option String := none

/-- Reads one property of a node, if one stands here. -/
def Properties.more (p : Properties) (c : Cursor) :
    Except Fault (Option (Properties × Cursor)) :=
  match c.rest with
  | '&' :: _ =>
    if p.anchor.isSome then .error .unexpected
    else (anchorName (c.skip 1)).map fun (name, c) => some ({ p with anchor := name }, c)
  | '!' :: _ =>
    if p.tag.isSome then .error .unexpected
    else (tagName c).map fun (tag, c) => some ({ p with tag := tag }, c)
  | _ => .ok none

/-- May a plain scalar begin here? -/
def startsPlain (inFlow : Bool) : List Char → Bool
  | [] => false
  | c :: rest =>
    if c = '-' then !(rest.head?.any isSpace)
    else if c = '?' || c = ':' then !inFlow && !atBlank rest
    else !(isSpace c || c = '\n') && c ∉ ",[]\x7b\x7d#&*!|>'\"%@\x60".toList

/-- A scalar in a line, with the place behind it. -/
structure Inline where
  /-- The scalar. -/
  node : Node
  /-- The text. -/
  text : String
  /-- Does it lie in one line? -/
  oneLine : Bool
  /-- The place behind it. -/
  stop : Cursor

/-- Reads a plain or quoted scalar. The lines of a plain one after the first must
begin in the given column or behind it. -/
def readInline (inFlow : Bool) (indent : Nat) (p : Properties) (c : Cursor) :
    Except Fault Inline := do
  let quoted (double : Bool) : Except Fault Inline := do
    let (text, stop) ← scanQuoted double (c.skip 1)
    let raw := c.rest.take (c.rest.length - stop.rest.length)
    return ⟨.scalar (String.ofList text) false p.tag, String.ofList text,
      !raw.contains '\n', stop⟩
  match c.rest with
  | '\'' :: _ => quoted false
  | '"' :: _ => quoted true
  | _ =>
    if startsPlain inFlow c.rest then
      let plain ← scanPlain inFlow indent c.column { stop := c } c.rest
      let text := String.ofList plain.text.reverse
      return ⟨.scalar text true p.tag, text, !plain.multiline, plain.stop⟩
    else throw .badToken

/-- The text of a node that is a name. -/
def nameOf : Node → Except Fault String
  | .scalar text _ _ => .ok text
  | _ => .error .unexpected

/-- The node that a reference names. -/
def readAlias (st : State) : Except Fault (Node × State) := do
  let (name, c) ← anchorName (st.cursor.skip 1)
  match st.anchors.lookup name with
  | some n => return (n, st.moveTo c)
  | none => throw .unknownAlias

/-- A node with its tag. -/
def Node.withTag (n : Node) (tag : Option String) : Node :=
  match n with
  | .scalar text plain old => .scalar text plain (tag.or old)
  | .sequence items old => .sequence items (tag.or old)
  | .mapping members old => .mapping members (tag.or old)

/-! ## Inside brackets -/

/-- Does the value of a name follow, or the end of the entryAt? -/
def startsNothing (c : Cursor) : Bool :=
  match c.rest with
  | d :: _ => d = ',' || d = ']' || d = '}' || d = ':'
  | [] => true

mutual

/-- Reads a node inside brackets. -/
def flowNode : Nat → Properties → State → Except Fault (Node × State)
  | 0, _, _ => .error .unclosed
  | fuel + 1, p, st => do
    let c ← st.cursor.nextInFlow
    match ← p.more c with
    | some (p, c) => flowNode fuel p (st.moveTo c)
    | none =>
      if startsNothing c then
        let n := Node.void.withTag p.tag
        return (n, (st.moveTo c).remember p.anchor n)
      else match c.rest with
        | '[' :: _ => do
          let (items, st) ← flowItems fuel (st.moveTo (c.skip 1))
          let n := Node.sequence items p.tag
          return (n, st.remember p.anchor n)
        | '{' :: _ => do
          let (members, st) ← flowMembers fuel (st.moveTo (c.skip 1))
          let n := Node.mapping members p.tag
          return (n, st.remember p.anchor n)
        | '*' :: _ => readAlias (st.moveTo c)
        | _ => do
          let s ← readInline true 0 p c
          return (s.node, (st.moveTo s.stop).remember p.anchor s.node)

/-- Reads the value behind a name inside brackets: nothing if no colon follows. -/
def flowValue : Nat → State → Except Fault (Option Node × State)
  | 0, _ => .error .unclosed
  | fuel + 1, st => do
    let c ← st.cursor.nextInFlow
    match c.rest with
    | ':' :: _ => do
      let (n, st) ← flowNode fuel {} (st.moveTo (c.skip 1))
      return (some n, st)
    | _ => return (none, st.moveTo c)

/-- Reads the items of a list up to its closing bracket. -/
def flowItems : Nat → State → Except Fault (List Node × State)
  | 0, _ => .error .unclosed
  | fuel + 1, st => do
    let c ← st.cursor.nextInFlow
    match c.rest with
    | ']' :: _ => return ([], st.moveTo (c.skip 1))
    | ',' :: _ => throw .unexpected
    | _ => do
      let explicit := c.hasIndicator '?'
      let c := if explicit then c.skip 1 else c
      let (n, st) ← flowNode fuel {} (st.moveTo c)
      let (value?, st) ← flowValue fuel st
      let item ← match value?, explicit with
        | some v, _ => (nameOf n).map fun name => Node.mapping [(name, v)] none
        | none, true => (nameOf n).map fun name => Node.mapping [(name, .void)] none
        | none, false => pure n
      let c ← st.cursor.nextInFlow
      match c.rest with
      | ',' :: _ => do
        let (items, st) ← flowItems fuel (st.moveTo (c.skip 1))
        return (item :: items, st)
      | ']' :: _ => return ([item], st.moveTo (c.skip 1))
      | _ => throw .unexpected

/-- Reads the members of a mapping up to its closing brace. -/
def flowMembers : Nat → State → Except Fault (List (String × Node) × State)
  | 0, _ => .error .unclosed
  | fuel + 1, st => do
    let c ← st.cursor.nextInFlow
    match c.rest with
    | '}' :: _ => return ([], st.moveTo (c.skip 1))
    | ',' :: _ => throw .unexpected
    | _ => do
      let c := if c.hasIndicator '?' then c.skip 1 else c
      let (n, st) ← flowNode fuel {} (st.moveTo c)
      let name ← nameOf n
      let (value?, st) ← flowValue fuel st
      let member := (name, value?.getD .void)
      let c ← st.cursor.nextInFlow
      match c.rest with
      | ',' :: _ => do
        let (members, st) ← flowMembers fuel (st.moveTo (c.skip 1))
        return (member :: members, st)
      | '}' :: _ => return ([member], st.moveTo (c.skip 1))
      | _ => throw .unexpected

end

/-! ## Blocks -/

/-- Is the column behind that of what the node belongs to? -/
def isBehind (outer : Option Nat) (column : Nat) : Bool :=
  match outer with
  | some n => n < column
  | none => true

/-- Ends a node that lies in a line: nothing may follow it there. -/
def endLine (n : Node) (p : Properties) (st : State) : Except Fault (Node × State) :=
  let c := st.cursor.skipSpaces
  if c.atLineEnd then .ok (n, st.remember p.anchor n)
  else if c.hasIndicator ':' then .error .misplacedKey
  else .error .trailing

/-- Reads the name at the beginning of a member of a block mapping, up to its
colon. -/
def blockName (indent : Nat) : Nat → Properties → State → Except Fault (String × State)
  | 0, _, _ => .error .unclosed
  | fuel + 1, p, st => do
    match ← p.more st.cursor with
    | some (p, c) => blockName indent fuel p (st.moveTo c.skipSpaces)
    | none =>
      let (name, st) ← match st.cursor.rest with
        | '*' :: _ => do
          let (n, st) ← readAlias st
          pure ((← nameOf n), st)
        | _ => do
          let s ← readInline false indent p st.cursor
          if !s.oneLine then throw .misplacedKey
          pure (s.text, (st.moveTo s.stop).remember p.anchor s.node)
      let c := st.cursor.skipSpaces
      if c.hasIndicator ':' then return (name, st.moveTo (c.skip 1))
      else throw .unexpected

mutual

/-- Reads a node in a block. May a list or a mapping begin in this line; may a
list stand in the column of what the node belongs to? -/
def blockNode (outer : Option Nat) : Nat → Bool → Bool → Properties → State →
    Except Fault (Node × State)
  | 0, _, _, _, _ => .error .unclosed
  | fuel + 1, keys, asValue, p, st => do
    let (c, crossed) := st.cursor.next !keys
    let keys := keys || crossed
    let void := Node.void.withTag p.tag
    if c.atEnd then return (void, (st.moveTo c).remember p.anchor void)
    else if crossed && !isBehind outer c.column then
      if asValue && outer = some c.column && c.hasIndicator '-' then do
        let (items, st) ← blockItems c.column true fuel (st.moveTo c)
        let n := Node.sequence items p.tag
        return (n, st.remember p.anchor n)
      else return (void, (st.moveTo c).remember p.anchor void)
    else blockContent outer fuel keys asValue p c.column (st.moveTo c)
termination_by structural fuel => fuel

/-- Reads a node in a block, at its first character. If the node is the first
name of a mapping, the mapping stands in the given column. -/
def blockContent (outer : Option Nat) : Nat → Bool → Bool → Properties → Nat → State →
    Except Fault (Node × State)
  | 0, _, _, _, _, _ => .error .unclosed
  | fuel + 1, keys, asValue, p, column, st => do
    let c := st.cursor
    let collection {α : Type} (make : α → Option String → Node)
        (parts : Except Fault (α × State)) : Except Fault (Node × State) := do
      if !keys then throw .unexpected
      let (parts, st) ← parts
      let n := make parts p.tag
      return (n, st.remember p.anchor n)
    match ← p.more c with
    | some (p', c') =>
      let (c'', crossed) := c'.next true
      if crossed || c''.atEnd then
        blockNode outer fuel false asValue p' (st.moveTo c')
      else
        let named := blockName column fuel {} st
        match keys, named with
        | true, .ok (name, st) => do
          let (members, st) ← blockMembers column fuel name st
          let n := Node.mapping members p.tag
          return (n, st.remember p.anchor n)
        | _, _ => blockContent outer fuel false asValue p' c''.column (st.moveTo c'')
    | none =>
      if c.hasIndicator '-' then collection .sequence (blockItems c.column false fuel st)
      else if c.hasIndicator '?' then
        collection .mapping (blockExplicit c.column fuel st)
      else match c.rest with
        | '[' :: _ => do
          let (items, st) ← flowItems fuel (st.moveTo (c.skip 1))
          endLine (.sequence items p.tag) p st
        | '{' :: _ => do
          let (members, st) ← flowMembers fuel (st.moveTo (c.skip 1))
          endLine (.mapping members p.tag) p st
        | '|' :: rest => do
          let (text, rest) ← scanBlock true outer rest
          let n := Node.scalar (String.ofList text) false p.tag
          return (n, (st.moveTo ⟨rest, 0⟩).remember p.anchor n)
        | '>' :: rest => do
          let (text, rest) ← scanBlock false outer rest
          let n := Node.scalar (String.ofList text) false p.tag
          return (n, (st.moveTo ⟨rest, 0⟩).remember p.anchor n)
        | '*' :: _ => do
          let (n, after) ← readAlias st
          let c := after.cursor.skipSpaces
          if keys && c.hasIndicator ':' then do
            let name ← nameOf n
            collection .mapping (blockMembers column fuel name (after.moveTo (c.skip 1)))
          else endLine n {} after
        | _ => do
          let indent := match outer with
            | some n => n + 1
            | none => 0
          let s ← readInline false indent p c
          let stop := s.stop.skipSpaces
          if keys && s.oneLine && stop.hasIndicator ':' then
            collection .mapping (blockMembers column fuel s.text (st.moveTo (stop.skip 1)))
          else endLine s.node p (st.moveTo s.stop)
termination_by structural fuel => fuel

/-- Reads the items of a list in a column, from the dash of one of them on. A
list in the column of a mapping ends where the mapping goes on. -/
def blockItems (column : Nat) (shared : Bool) : Nat → State →
    Except Fault (List Node × State)
  | 0, _ => .error .unclosed
  | fuel + 1, st => do
    let (n, st) ← blockNode (some column) fuel true false {} (st.moveTo (st.cursor.skip 1))
    let (c, _) := st.cursor.next false
    let st := st.moveTo c
    if c.atEnd || c.column < column then return ([n], st)
    else if column < c.column then throw .unexpected
    else if c.hasIndicator '-' then do
      let (items, st) ← blockItems column shared fuel st
      return (n :: items, st)
    else if shared then return ([n], st)
    else throw .unexpected
termination_by structural fuel => fuel

/-- Reads the members of a mapping in a column, from behind the colon of one of
them on. -/
def blockMembers (column : Nat) : Nat → String → State →
    Except Fault (List (String × Node) × State)
  | 0, _, _ => .error .unclosed
  | fuel + 1, name, st => do
    let (n, st) ← blockNode (some column) fuel false true {} st
    let (members, st) ← blockFurther column fuel st
    return ((name, n) :: members, st)
termination_by structural fuel => fuel

/-- Reads the members of a mapping in a column, from a question mark before the
name of one of them on. -/
def blockExplicit (column : Nat) : Nat → State →
    Except Fault (List (String × Node) × State)
  | 0, _ => .error .unclosed
  | fuel + 1, st => do
    let (key, st) ← blockNode (some column) fuel true false {} (st.moveTo (st.cursor.skip 1))
    let name ← nameOf key
    let (c, _) := st.cursor.next false
    let (n, st) ←
      if !c.atEnd && c.column = column && c.hasIndicator ':' then
        blockNode (some column) fuel true true {} (st.moveTo (c.skip 1))
      else pure (.void, st)
    let (members, st) ← blockFurther column fuel st
    return ((name, n) :: members, st)
termination_by structural fuel => fuel

/-- Reads the members of a mapping in a column that come after one of them. -/
def blockFurther (column : Nat) : Nat → State →
    Except Fault (List (String × Node) × State)
  | 0, _ => .error .unclosed
  | fuel + 1, st => do
    let (c, _) := st.cursor.next false
    let st := st.moveTo c
    if c.atEnd || c.column < column then return ([], st)
    else if column < c.column || c.hasIndicator '-' then throw .unexpected
    else if c.hasIndicator '?' then blockExplicit column fuel st
    else do
      let (name, st) ← blockName (column + 1) fuel {} st
      blockMembers column fuel name st
termination_by structural fuel => fuel

end

/-! ## Documents -/

/-- The text with line feeds for all line breaks. -/
def unifyBreaks : List Char → List Char
  | [] => []
  | '\r' :: '\n' :: rest => '\n' :: unifyBreaks rest
  | c :: rest => (if c = '\r' || c.toNat = 0x85 then '\n' else c) :: unifyBreaks rest

/-- May the character stand in a YAML text? -/
def isAllowed (c : Char) : Bool :=
  let n := c.toNat
  n = 0x09 || n = 0x0a || n = 0x0d || (0x20 ≤ n && n ≤ 0x7e) || n = 0x85 ||
    (0xa0 ≤ n && n ≤ 0xd7ff) || (0xe000 ≤ n && n ≤ 0xfffd && n != 0xfeff) || 0x10000 ≤ n

/-- The place behind the directives of a document; behind them the document must
be marked. -/
def skipDirectives : Nat → Bool → Cursor → Except Fault Cursor
  | 0, _, _ => .error .unclosed
  | fuel + 1, seen, c => do
    let (c, _) := c.next false
    match c.rest with
    | '%' :: rest =>
      if c.column = 0 && ("YAML ".toList.isPrefixOf rest || "TAG ".toList.isPrefixOf rest)
      then skipDirectives fuel true ⟨c.rest.dropWhile (· != '\n'), 0⟩
      else throw .badToken
    | _ =>
      if seen && !(c.column = 0 && "---".toList.isPrefixOf c.rest && atMarker c.rest) then
        throw .unexpected
      else return c

/-- Refuses whatever is not the end of the text behind the document. -/
def expectEnd : Nat → Bool → Cursor → Except Fault Unit
  | 0, _, _ => .error .unclosed
  | fuel + 1, closed, c => do
    let (c, _) := c.next false
    if c.rest.isEmpty then return ()
    else if c.column = 0 && atMarker c.rest then
      if c.rest.head? = some '.' then
        let c := (c.skip 3).skipSpaces
        if c.atLineEnd then expectEnd fuel true c else throw .unexpected
      else throw .manyDocuments
    else if closed then throw .manyDocuments
    else throw .unexpected

/-- How deep nodes lie in each other. -/
def Node.depth : Node → Nat
  | .scalar .. => 0
  | .sequence items _ => 1 + deepest items
  | .mapping members _ => 1 + deepestMember members
where
  /-- The depth of the deepest of some nodes. -/
  deepest : List Node → Nat
    | [] => 0
    | n :: rest => max (depth n) (deepest rest)
  /-- The depth of the deepest of some members. -/
  deepestMember : List (String × Node) → Nat
    | [] => 0
    | (_, n) :: rest => max (depth n) (deepestMember rest)

/-- How deep nodes may lie in each other. -/
def greatestDepth : Nat := 128

/-- Reads the one document of a text. -/
def read (text : String) : Except Fault Node := do
  let s := match text.toList with
    | c :: rest => if c.toNat = 0xfeff then rest else c :: rest
    | [] => []
  if !s.all isAllowed then throw .badCharacter
  let s := unifyBreaks s
  let fuel := 6 * s.length + 16
  let c ← skipDirectives fuel false ⟨s, 0⟩
  let marked := c.column = 0 && "---".toList.isPrefixOf c.rest && atMarker c.rest
  let start := if marked then c.skip 3 else c
  let (n, st) ← blockNode none fuel (!marked) false {} ⟨start, []⟩
  expectEnd fuel false st.cursor
  if greatestDepth < n.depth then throw .unclosed
  return n

/-- Reads the one document of a text as a value of a type. -/
def readAs {α : Type} (readNode : Node → Except ReadFault α) (text : String) :
    Except RunError α := do
  let n ← (read text).mapError fun fault => .yaml fault.message
  (readNode n).mapError fun fault => .yaml fault.message

/-- Reads the one document of a text. -/
def readDocument (text : String) : Except RunError Document := readAs Node.toDocument text

end CaseRunner.Yaml
