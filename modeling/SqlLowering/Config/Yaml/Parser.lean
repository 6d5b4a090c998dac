import SqlLowering.Config.Yaml.Basic
import SqlLowering.Config.Yaml.Token

/-!
Reading configuration documents from their tokens. A text holds at most one document. Anchors,
tags and directives are not read.
-/

namespace SqlLowering.Yaml

mutual

/-- The node at the start of some tokens, and the tokens behind it. A block may stand here or only
a collection between brackets, and items may stand here without a block of their own or not. Every
reader takes one unit of fuel, and two for each token are enough. -/
def readNode (block items : Bool) : Nat → List Token → Option (Yaml × List Token)
  | 0, _ => none
  | fuel + 1, tokens =>
    match tokens with
    | .scalar plain text :: rest => some (.scalar plain text, rest)
    | .sequenceOpen :: rest => do
      let (items, rest) ← readFlowItems true fuel rest
      return (.sequence items, rest)
    | .mappingOpen :: rest => do
      let (entries, rest) ← readFlowEntries true fuel rest
      return (.mapping entries, rest)
    | .sequenceBlock :: rest =>
      if block then do
        let (items, rest) ← readBlockItems fuel rest
        return (.sequence items, rest)
      else none
    | .mappingBlock :: rest =>
      if block then do
        let (entries, rest) ← readBlockEntries fuel rest
        return (.mapping entries, rest)
      else none
    | .item :: _ =>
      if items then do
        let (items, rest) ← readLooseItems fuel tokens
        return (.sequence items, rest)
      else none
    | _ => none

/-- The node in front of some token, or nothing if that stands right here. -/
def readNodeBefore (block items : Bool) (ends : List Token) :
    Nat → List Token → Option (Yaml × List Token)
  | 0, _ => none
  | fuel + 1, tokens =>
    match tokens with
    | [] => none
    | token :: _ =>
      if ends.contains token then some (.empty, tokens) else readNode block items fuel tokens

/-- The items of a block up to its end. -/
def readBlockItems : Nat → List Token → Option (List Yaml × List Token)
  | 0, _ => none
  | fuel + 1, tokens =>
    match tokens with
    | .item :: rest => do
      let (item, rest) ← readNodeBefore true false [.item, .blockEnd] fuel rest
      let (items, rest) ← readBlockItems fuel rest
      return (item :: items, rest)
    | .blockEnd :: rest => some ([], rest)
    | _ => none

/-- Items without a block of their own, as the value of an entry. -/
def readLooseItems : Nat → List Token → Option (List Yaml × List Token)
  | 0, _ => none
  | fuel + 1, tokens =>
    match tokens with
    | .item :: rest => do
      let (item, rest) ← readNodeBefore true false [.item, .key, .value, .blockEnd] fuel rest
      let (items, rest) ← readLooseItems fuel rest
      return (item :: items, rest)
    | _ => some ([], tokens)

/-- The entries of a block up to its end. -/
def readBlockEntries : Nat → List Token → Option (List (Yaml × Yaml) × List Token)
  | 0, _ => none
  | fuel + 1, tokens =>
    match tokens with
    | .key :: rest => do
      let (key, rest) ← readNodeBefore true true [.key, .value, .blockEnd] fuel rest
      let (value, rest) ← match rest with
        | .value :: rest => readNodeBefore true true [.key, .value, .blockEnd] fuel rest
        | _ => some (.empty, rest)
      let (entries, rest) ← readBlockEntries fuel rest
      return ((key, value) :: entries, rest)
    | .blockEnd :: rest => some ([], rest)
    | _ => none

/-- The items between brackets up to the closing one. A comma has to stand in front of each but the
first. -/
def readFlowItems (first : Bool) : Nat → List Token → Option (List Yaml × List Token)
  | 0, _ => none
  | fuel + 1, tokens =>
    match tokens with
    | .sequenceClose :: rest => some ([], rest)
    | _ => do
      let tokens ← match first, tokens with
        | true, tokens => some tokens
        | false, .comma :: rest => some rest
        | false, _ => none
      match tokens with
      | .sequenceClose :: rest => return ([], rest)
      | .key :: rest =>
        let (entry, rest) ← readFlowPair fuel rest
        let (items, rest) ← readFlowItems false fuel rest
        return (.mapping [entry] :: items, rest)
      | tokens =>
        let (item, rest) ← readNode false false fuel tokens
        let (items, rest) ← readFlowItems false fuel rest
        return (item :: items, rest)

/-- An entry that stands alone as an item between brackets, behind the token for its key. Where the
key is missing, the token behind it is passed over. -/
def readFlowPair : Nat → List Token → Option ((Yaml × Yaml) × List Token)
  | 0, _ => none
  | fuel + 1, tokens => do
    let (key, rest) ← match tokens with
      | .value :: rest | .comma :: rest | .sequenceClose :: rest => some (Yaml.empty, rest)
      | tokens => readNode false false fuel tokens
    let (value, rest) ← match rest with
      | .value :: rest => readNodeBefore false false [.comma, .sequenceClose] fuel rest
      | rest => some (.empty, rest)
    return ((key, value), rest)

/-- The entries between braces up to the closing one. A comma has to stand in front of each but the
first. -/
def readFlowEntries (first : Bool) : Nat → List Token → Option (List (Yaml × Yaml) × List Token)
  | 0, _ => none
  | fuel + 1, tokens =>
    match tokens with
    | .mappingClose :: rest => some ([], rest)
    | _ => do
      let tokens ← match first, tokens with
        | true, tokens => some tokens
        | false, .comma :: rest => some rest
        | false, _ => none
      match tokens with
      | .mappingClose :: rest => return ([], rest)
      | .key :: rest =>
        let (key, rest) ← readNodeBefore false false [.value, .comma, .mappingClose] fuel rest
        let (value, rest) ← match rest with
          | .value :: rest => readNodeBefore false false [.comma, .mappingClose] fuel rest
          | rest => some (Yaml.empty, rest)
        let (entries, rest) ← readFlowEntries false fuel rest
        return ((key, value) :: entries, rest)
      | tokens =>
        let (key, rest) ← readNode false false fuel tokens
        let (entries, rest) ← readFlowEntries false fuel rest
        return ((key, .empty) :: entries, rest)

end

/-- The document that some tokens hold, if it is the only one. -/
def readDocument? (tokens : List Token) : Option Yaml := do
  let fuel := 2 * tokens.length + 2
  let (node, rest) ← match tokens with
    | [] => some (.empty, [])
    | [.documentStart] => some (.empty, [])
    | .documentStart :: rest => readNodeBefore true false [.documentStart, .documentEnd] fuel rest
    | tokens => readNode true false fuel tokens
  if (rest.dropWhile (· = .documentEnd)).isEmpty then return node else none

/-- The document that a text is. -/
def parse? (text : String) : Option Yaml := do
  readDocument? (← tokens? text)

end SqlLowering.Yaml
