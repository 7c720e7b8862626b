/-
Words of the query language.

A query is cut at blanks and parentheses. Double quotes keep everything between them as it is and
may stand anywhere in a word; the first colon outside of quotes parts a key from its value. The
words `AND`, `OR` and `NOT` are operators if no part of them is quoted. A quote that is never
closed is the only thing that can go wrong.
-/
import Triage.Text.Blank
namespace Triage.Query

open Triage.Text

/-- A condition as it is written: a word, or a key with a value. -/
inductive Term
  | word (text : String)
  | field (key value : String)
  deriving Repr, DecidableEq

/-- The text of a term without its quotes. -/
def Term.text : Term → String
  | word text => text
  | field key value => key ++ ":" ++ value

/-- A token of the query language. -/
inductive Token
  | term (term : Term)
  | and
  | or
  | not
  | openGroup
  | closeGroup
  deriving Repr, DecidableEq

/-- A word under way: the key if its colon was seen, the characters since then with the last one
first, and whether any part was quoted. -/
structure Draft where
  key : Option String := none
  text : List Char := []
  quoted : Bool := false
  deriving Repr, DecidableEq

namespace Draft

/-- The draft with one character more. -/
def push (d : Draft) (c : Char) : Draft := { d with text := c :: d.text }

/-- What was read so far becomes the key. -/
def endKey (d : Draft) : Draft := { d with key := some (String.ofList d.text.reverse), text := [] }

/-- The token that the draft amounts to; nothing at all makes no token. -/
def finish (d : Draft) : List Token :=
  let text := String.ofList d.text.reverse
  match d.key with
  | some key => [.term (.field key text)]
  | none =>
    if d.quoted then [.term (.word text)]
    else if text == "" then []
    else if text == "AND" then [.and]
    else if text == "OR" then [.or]
    else if text == "NOT" then [.not]
    else [.term (.word text)]

end Draft

/-- The tokens of a text that follows a draft. If the text starts inside of quotes, `quote` holds
what follows from the opening quote on, the quote included. A quote that is not closed fails with
that text. -/
def scan (draft : Draft) (quote : Option (List Char)) : List Char → Except (List Char) (List Token)
  | [] =>
    match quote with
    | some text => .error text
    | none => .ok draft.finish
  | c :: rest =>
    match quote with
    | some text =>
      if c = '"' then scan draft none rest
      else scan (draft.push c) (some text) rest
    | none =>
      if c = '"' then scan { draft with quoted := true } (some (c :: rest)) rest
      else if c = '(' then do return draft.finish ++ .openGroup :: (← scan {} none rest)
      else if c = ')' then do return draft.finish ++ .closeGroup :: (← scan {} none rest)
      else if c = ':' ∧ draft.key = none then scan draft.endKey none rest
      else if isBlank c then do return draft.finish ++ (← scan {} none rest)
      else scan (draft.push c) none rest

/-- The tokens of a query. An open quote fails with the text from it on. -/
def tokens (query : String) : Except String (List Token) :=
  (scan {} none query.toList).mapError String.ofList

end Triage.Query
