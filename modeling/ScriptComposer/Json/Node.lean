import ScriptComposer.Json.Token

/-!
# ScriptComposer.Json.Node

The values of a JSON text, well formed or not.

A node is what a text holds up to the first place where it is not JSON.  The
damage is part of the node: a container says how it ends, and a value that
cannot be read is a broken node.  Behind damage there is nothing, so a reader
who goes through a node in order meets the problems of the text in order, its
own among them, and the first one it meets is the first one there is.

Nodes are built by a machine that keeps the containers still open on a stack;
each token takes one step.
-/

namespace ScriptComposer.Json

/-! ## nodes -/

/-- How the items of an array or the members of an object end. -/
inductive Ending where
  | closed
  /-- The text ends behind the opening bracket, an item or a member. -/
  | endOfText
  /-- Something else follows without a comma. -/
  | unseparated
  /-- The text ends behind a comma. -/
  | commaEnd
  /-- The closing bracket follows a comma. -/
  | commaClosed
  /-- What follows, in an object, has no name. -/
  | nameless
  deriving DecidableEq, Repr

/-- A value as it stands in a text. -/
inductive Node where
  | null
  | boolean (b : Bool)
  | number (n : Numeral)
  | text (l : Literal)
  | array (items : List Node) (ending : Ending)
  | object (members : List (Literal × Node)) (ending : Ending)
  | broken (d : Damage)

/-! ## building -/

/-- A container that is open around a value to come, its contents last first. -/
inductive Frame where
  | array (items : List Node)
  | object (members : List (Literal × Node)) (name : Literal)

/-- What may come next: a value, an item or member with or without a comma
before it, a separator, a colon.  Contents are kept last first. -/
inductive Place where
  | value
  | item (items : List Node)
  | itemEnd (items : List Node)
  | member (members : List (Literal × Node))
  | memberEnd (members : List (Literal × Node))
  | colon (members : List (Literal × Node)) (name : Literal)

/-- Where the machine is: a place, and the containers around it, innermost
first. -/
structure Building where
  place : Place
  frames : List Frame

/-- The result of a step: building goes on, or the node is complete. -/
inductive Progress where
  | building (b : Building)
  | done (v : Node)

/-- A value has been read: go on in the innermost container. -/
def Building.accept (frames : List Frame) (v : Node) : Progress :=
  match frames with
  | [] => .done v
  | .array items :: frames => .building ⟨.itemEnd (v :: items), frames⟩
  | .object members name :: frames => .building ⟨.memberEnd ((name, v) :: members), frames⟩

/-- The node that damage leaves: the damaged value and the containers around it. -/
def abandon (v : Node) : List Frame → Node
  | [] => v
  | .array items :: frames => abandon (.array (v :: items).reverse .endOfText) frames
  | .object members name :: frames =>
      abandon (.object ((name, v) :: members).reverse .endOfText) frames

namespace Building

/-- Stop with a damaged value. -/
def fail (frames : List Frame) (v : Node) : Progress := .done (abandon v frames)

/-- The token begins a value, or should. -/
def startValue (frames : List Frame) : Token → Progress
  | .null => accept frames .null
  | .boolean b => accept frames (.boolean b)
  | .number n => accept frames (.number n)
  | .text l => accept frames (.text l)
  | .openArray => .building ⟨.item [], frames⟩
  | .openObject => .building ⟨.member [], frames⟩
  | .broken d => fail frames (.broken d)
  | .closeArray | .closeObject | .comma | .colon => fail frames (.broken (.plain .noValue))

/-- One step. -/
def step (b : Building) (t : Token) : Progress :=
  match b.place with
  | .value => startValue b.frames t
  | .item items =>
      match t, items with
      | .closeArray, [] => accept b.frames (.array [] .closed)
      | .closeArray, _ => fail b.frames (.array items.reverse .commaClosed)
      | t, _ => startValue (.array items :: b.frames) t
  | .itemEnd items =>
      match t with
      | .closeArray => accept b.frames (.array items.reverse .closed)
      | .comma => .building ⟨.item items, b.frames⟩
      | _ => fail b.frames (.array items.reverse .unseparated)
  | .member members =>
      match t, members with
      | .text name, _ => .building ⟨.colon members name, b.frames⟩
      | .closeObject, [] => accept b.frames (.object [] .closed)
      | .closeObject, _ => fail b.frames (.object members.reverse .commaClosed)
      | _, _ => fail b.frames (.object members.reverse .nameless)
  | .memberEnd members =>
      match t with
      | .closeObject => accept b.frames (.object members.reverse .closed)
      | .comma => .building ⟨.member members, b.frames⟩
      | _ => fail b.frames (.object members.reverse .unseparated)
  | .colon members name =>
      match t with
      | .colon => .building ⟨.value, .object members name :: b.frames⟩
      | _ => fail (.object members name :: b.frames) (.broken (.plain .noColon))

def ended (b : Building) : Node :=
  match b.place with
  | .value => abandon (.broken (.plain .endInValue)) b.frames
  | .item [] => abandon (.array [] .endOfText) b.frames
  | .item items => abandon (.array items.reverse .commaEnd) b.frames
  | .itemEnd items => abandon (.array items.reverse .endOfText) b.frames
  | .member [] => abandon (.object [] .endOfText) b.frames
  | .member members => abandon (.object members.reverse .commaEnd) b.frames
  | .memberEnd members => abandon (.object members.reverse .endOfText) b.frames
  | .colon members name =>
      abandon (.broken (.plain .endInObject)) (.object members name :: b.frames)

/-- Build a node to its end; the tokens behind it are left over. -/
def run (b : Building) : List Token → Node × List Token
  | [] => (b.ended, [])
  | t :: ts =>
      match b.step t with
      | .building b => run b ts
      | .done v => (v, ts)

end Building

/-- The value that the tokens begin with, and the tokens behind it. -/
def Node.ofTokens (ts : List Token) : Node × List Token := Building.run ⟨.value, []⟩ ts

/-! ## passing over -/

/-- The end of an array that nobody wants. -/
def Ending.skipArray : Ending → Reading Unit
  | .closed => .ok ()
  | .endOfText => stop .endInArray
  | .unseparated | .nameless => stop .noItemSeparator
  | .commaEnd => stop .endInValue
  | .commaClosed => stop .noValue

/-- The end of an object that nobody wants. -/
def Ending.skipObject : Ending → Reading Unit
  | .closed => .ok ()
  | .endOfText | .commaEnd => stop .endInObject
  | .unseparated => stop .noMemberSeparator
  | .commaClosed | .nameless => stop .nameNotText

def skipLiteral (l : Literal) : Reading Unit := l.skip.mapError .fault

mutual

/-- Pass over a value: it must be JSON, whatever it says. -/
def Node.skip : Node → Reading Unit
  | .null | .boolean _ | .number _ => .ok ()
  | .text l => skipLiteral l
  | .array items ending => do
      skipItems items
      ending.skipArray
  | .object members ending => do
      skipMembers members
      ending.skipObject
  | .broken d => stop d.skipped

def skipItems : List Node → Reading Unit
  | [] => .ok ()
  | v :: rest => do
      v.skip
      skipItems rest

def skipMembers : List (Literal × Node) → Reading Unit
  | [] => .ok ()
  | (name, v) :: rest => do
      skipLiteral name
      v.skip
      skipMembers rest

end

/-! ## mismatches -/

/-- The text that a literal says. -/
def readLiteral (l : Literal) : Reading String := l.text.mapError .fault

/-- What a message calls the node: containers are not looked into, and all else
is read to its end. -/
def Node.found : Node → Reading Found
  | .null => .ok .null
  | .boolean b => .ok (.boolean b)
  | .number n => n.found
  | .text l => .text <$> readLiteral l
  | .array .. => .ok .array
  | .object .. => .ok .object
  | .broken d => stop d.wanted

/-- Stop because the node is not what is wanted. -/
def Node.refuse {α : Type} (v : Node) (wanted : Wanted) : Reading α := do
  throw (.mismatch (← v.found) wanted)

end ScriptComposer.Json
