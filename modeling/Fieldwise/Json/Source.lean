import Fieldwise.Json.Token

/-!
# Documents as written

The tree of a document before its parts are given their values: repeated keys are still there, and
parts without a value stand as `none`. Reading is a single pass over the tokens with a stack of
open arrays and objects, so nesting is not limited here.
-/

namespace Fieldwise.Json

/-- A document as it is written. -/
inductive Source where
  | null
  | boolean (value : Bool)
  | number (value : Option Number)
  | string (value : Option String)
  | array (items : List Source)
  | object (entries : List (Option String × Source))
  deriving Inhabited

namespace Source

/-- An array or object that is still open, with its members so far in reverse. -/
private inductive Frame where
  | items (done : List Source)
  | entries (done : List (Option String × Source)) (key : Option String)

/-- What the next token has to be. -/
private inductive Expectation where
  | value
  | firstItem
  | firstKey
  | key
  | colon (key : Option String)
  | separator
  | finish (document : Source)

/-- The state of a reader between two tokens; an object's key is stored in its frame. -/
private structure Reader where
  frames : List Frame
  expected : Expectation

/-- Hand a finished value to the innermost open frame. -/
private def Reader.give (frames : List Frame) (value : Source) : Reader :=
  match frames with
  | [] => ⟨[], .finish value⟩
  | .items done :: outer => ⟨.items (value :: done) :: outer, .separator⟩
  | .entries done key :: outer => ⟨.entries ((key, value) :: done) key :: outer, .separator⟩

/-- Start a value with its first token. -/
private def Reader.start (frames : List Frame) : Token → Option Reader
  | .null => some (give frames .null)
  | .boolean b => some (give frames (.boolean b))
  | .number n => some (give frames (.number n))
  | .string s => some (give frames (.string s))
  | .openBracket => some ⟨.items [] :: frames, .firstItem⟩
  | .openBrace => some ⟨.entries [] none :: frames, .firstKey⟩
  | _ => none

/-- Close the innermost frame, if the token is its closing mark. -/
private def Reader.close : List Frame → Token → Option Reader
  | .items done :: outer, .closeBracket => some (give outer (.array done.reverse))
  | .entries done _ :: outer, .closeBrace => some (give outer (.object done.reverse))
  | _, _ => none

/-- Take one token. -/
private def Reader.step (r : Reader) (token : Token) : Option Reader :=
  match r.expected, token with
  | .value, token => start r.frames token
  | .firstItem, .closeBracket => close r.frames token
  | .firstItem, token => start r.frames token
  | .firstKey, .closeBrace => close r.frames token
  | .firstKey, .string key => some ⟨r.frames, .colon key⟩
  | .key, .string key => some ⟨r.frames, .colon key⟩
  | .colon key, .colon =>
    match r.frames with
    | .entries done _ :: outer => some ⟨.entries done key :: outer, .value⟩
    | _ => none
  | .separator, .comma =>
    match r.frames with
    | .items _ :: _ => some ⟨r.frames, .value⟩
    | .entries _ _ :: _ => some ⟨r.frames, .key⟩
    | [] => none
  | .separator, token => close r.frames token
  | _, _ => none

/-- The document written by a row of tokens, if they are one document and nothing more. -/
def ofTokens? (tokens : List Token) : Option Source :=
  match tokens.foldlM Reader.step ⟨[], .value⟩ with
  | some ⟨_, .finish document⟩ => some document
  | _ => none

/-- The document written by a text. -/
def ofText? (text : String) : Option Source := (Token.scan text.toList).bind ofTokens?

end Source

end Fieldwise.Json
