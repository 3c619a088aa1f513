import Roster.Html.Builder.Rules
import Roster.Html.Lexer

/-!
# Reading documents

Every text is a document: what is not well formed is read in some way too. The text is read token
by token, and each token is put into the document before the next one is read, because it may
change how the text goes on.
-/

namespace Roster.Html

/-- The innermost open element is none of HTML. -/
def Builder.inForeign (b : Builder) : Bool := b.stack.head?.any fun n => (b.label n).1 ≠ .html

/-- Puts tokens into a document. -/
def Builder.pushAll (b : Builder) (tokens : List Token) : Builder := tokens.foldl push b

/-- Reads one piece of a text and puts it into a document. -/
def Builder.advance (b : Builder) (t : Text) : Builder × Text :=
  let (content, rest) :=
    match b.reading with
    | .tags => ([], t)
    | .raw name => (fun (c, rest) => (replaceNul c, rest)) (rawText name.toList t)
    | .references name => (fun (c, rest) => (decode false (replaceNul c), rest))
        (rawText name.toList t)
    | .script => (fun (c, rest) => (replaceNul c, rest)) (scriptText .outside 0 t)
    | .plain => (replaceNul t, [])
  let b := ({ b with reading := .tags } : Builder).pushAll (runs content)
  match rest with
  | [] => (b, [])
  | rest =>
    let (tokens, rest) := next b.inForeign rest
    (b.pushAll tokens, rest)

/-- Reads a text into a document; each round passes a character at least. -/
def Builder.read (b : Builder) : (rounds : Nat) → Text → Builder
  | 0, _ => b
  | _ + 1, [] => b
  | rounds + 1, t =>
    let (b, rest) := b.advance t
    b.read rounds rest

/-- The document that a text is; a byte order mark in front of it does not count. -/
def parse (t : Text) : Document :=
  let t := unifyLines ((Text.after? ['\uFEFF'] t).getD t)
  let b : Builder := {}
  ((b.read (t.length + 1) t).push .finish).draft.toDocument

end Roster.Html
