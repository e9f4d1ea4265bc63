import Storyboard.Shell.Reader

/-!
The reading of scripts: from the text to its statements, one complete command at a time, so that a
mistake is found no earlier than the command that holds it. Every function takes first a bound on
how deeply it may go, which the length of the text gives.
-/

namespace Storyboard.Shell

namespace Reader

/-- What may come where a token is read. -/
structure Outlook where
  /-- Whether lines are skipped. -/
  skipsLines : Bool
  knowsKeywords : Bool
  knowsAliases : Bool

namespace Outlook

/-- A word that means nothing but itself. -/
def plain : Outlook := ⟨false, false, false⟩

/-- A part of a command that may still be its first word. -/
def part : Outlook := ⟨false, false, true⟩

/-- The beginning of a command, or a word that closes one. -/
def opening : Outlook := ⟨false, true, true⟩

/-- The same, maybe on a later line. -/
def later : Outlook := ⟨true, true, true⟩

/-- The beginning of an arm of a selection, or the word that closes it. -/
def arm : Outlook := ⟨true, true, false⟩

end Outlook

/-- How a list of commands ends. -/
inductive ListKind where
  /-- At the end of a line. -/
  | line
  /-- At a closing word, with at least one command. -/
  | required
  /-- At a closing word. -/
  | maybeEmpty
deriving DecidableEq

mutual

/-- The pieces of a word up to its end at a place. -/
def pieces : Nat → Place → Word → Reader Word
  | 0, _, w => return w
  | depth + 1, place, w => do
    let isQuoted := place.isQuoted
    match ← peek with
    | none =>
      match place.openEnd? with
      | some m => fail m
      | none => return w
    | some '\\' =>
      skip
      match ← peekRaw with
      | none => pieces depth place (w.addChar '\\' true)
      | some c =>
        skip
        if isQuoted && !place.protects c then
          pieces depth place ((w.addChar '\\' true).addChar c true)
        else pieces depth place (w.addChar c true)
    | some '$' =>
      skip
      let piece ← dollar depth place
      pieces depth place (w ++ [piece])
    | some '\x60' =>
      skip
      let text ← backquoted isQuoted depth
      let piece ← outputOfText depth text isQuoted
      pieces depth place (w ++ [piece])
    | some c =>
      if isOrdinary c then
        let run ← ordinaryRun
        pieces depth place (w.addText run isQuoted)
      else
      match place with
      | .plain =>
        if endsWord c then return w
        else if c = '\'' || c = '"' then
          skip
          pieces depth place (w ++ (← quotedPieces depth c))
        else
          skip
          pieces depth place (w.addChar c false)
      | .double =>
        skip
        if c = '"' then return w else pieces depth place (w.addChar c true)
      | .braces q inQuotes =>
        if c = '\x7d' && !inQuotes then
          skip
          return w
        else if c = '"' && q then
          skip
          pieces depth (.braces q (!inQuotes)) w
        else if (c = '\'' || c = '"') && !q then
          skip
          pieces depth place (w ++ (← quotedPieces depth c))
        else
          skip
          pieces depth place (w.addChar c q)
      | .document =>
        skip
        pieces depth place (w.addChar c true)
      | .expression opened =>
        skip
        if c = '(' then pieces depth (.expression (opened + 1)) (w.addChar c true)
        else if c = ')' then
          match opened with
          | k + 1 => pieces depth (.expression k) (w.addChar c true)
          | 0 =>
            if ← skips ')' then return w else pieces depth place (w.addChar c true)
        else pieces depth place (w.addChar c true)

/-- What stands between quotes; empty quotes are a piece of their own. -/
def quotedPieces : Nat → Char → Reader Word
  | 0, _ => return []
  | depth + 1, quote => do
    let w ←
      if quote = '\'' then pure [.text (← singleQuoted (← get).rest.length.succ) true]
      else pieces depth .double []
    return if w.isEmpty then [.text [] true] else w

/-- The piece behind a dollar sign. -/
def dollar : Nat → Place → Reader Piece
  | 0, place => return .text ['$'] place.isQuoted
  | depth + 1, place => do
    let isQuoted := place.isQuoted
    match ← peek with
    | some '(' =>
      skip
      if ← skips '(' then return .arithmetic (← pieces depth (.expression 0) []) isQuoted
      else return .output (← commandsInParentheses depth) isQuoted
    | some '\x7b' =>
      skip
      inBraces depth place
    | some c =>
      if isNameStart c then
        return .parameter (← takeWhile Text.isWordChar (← get).rest.length) .plain isQuoted
      else if isSpecial c then
        skip
        return .parameter [c] .plain isQuoted
      else return .text ['$'] isQuoted
    | none => return .text ['$'] isQuoted

/-- The parameter in braces. -/
def inBraces : Nat → Place → Reader Piece
  | 0, place => return .text [] place.isQuoted
  | depth + 1, place => do
    let isQuoted := place.isQuoted
    let length := (← get).rest.length
    let _ ← peek
    if asksLength (← get).rest then
      skip
      let name ← bracedName length
      if name.isSome && (← skips '\x7d') then return .parameter (name.getD []) .length isQuoted
      else
        if name.isNone then passNonName
        let _ ← pieces depth (.braces isQuoted false) []
        return .parameter [] .unknown isQuoted
    else
      match ← bracedName length with
      | none =>
        passNonName
        let _ ← pieces depth (.braces isQuoted false) []
        return .parameter [] .unknown isQuoted
      | some name =>
        match ← useSign with
        | .closed => return .parameter name .plain isQuoted
        | .word use isPattern =>
          let w ← pieces depth (.braces (isQuoted && !isPattern) false) []
          return .parameter name (use w) isQuoted

/-- The commands up to a closing parenthesis. -/
def commandsInParentheses : Nat → Reader Statement
  | 0 => return .nothing
  | depth + 1 => do
    let outer := (← get).pending
    modify fun r => { r with pending := [] }
    let items ← list depth .maybeEmpty []
    let t ← next depth .opening
    if !t.isSymbol ")" then unexpected t (some (Token.quoted ")"))
    readDocuments depth
    modify fun r => { r with pending := outer }
    return .sequence items

/-- The output of the commands of a text of its own, whose lines are counted anew. -/
def outputOfText : Nat → Octets → Bool → Reader Piece
  | 0, _, isQuoted => return .text [] isQuoted
  | depth + 1, text, isQuoted => do
    let outer ← get
    set { outer with rest := text, line := 1, pushed := none, pending := [], opened := [] }
    let items ← list depth .maybeEmpty []
    readDocuments depth
    modify fun r => { outer with documents := r.documents, announced := r.announced }
    return .output (.sequence items) isQuoted

/-- Reads the documents that are pending. -/
def readDocuments : Nat → Reader Unit
  | 0 => return ()
  | depth + 1 => do
    let r ← get
    match r.pending with
    | [] => return ()
    | d :: others =>
      let (body, rest, count) := documentLines d r.rest.length.succ false r.rest
      let w ←
        if d.expands then
          set { r with rest := body, pushed := none, pending := [], opened := [] }
          pieces depth .document []
        else pure [.text body true]
      modify fun s =>
        { r with
          rest, line := r.line + count, pending := others, announced := s.announced
          documents := (d.number, w) :: s.documents }
      readDocuments depth

/-- The next token. -/
def next : Nat → Outlook → Reader Token
  | 0, _ => return .ending
  | depth + 1, o => do
    let t ←
      match (← get).pushed with
      | some t => do
        modify fun r => { r with pushed := none }
        pure t
      | none => token depth
    let isBehindBlank ← takeBlank
    let o := { o with knowsAliases := o.knowsAliases || isBehindBlank }
    match if o.knowsKeywords then t.asKeyword else t with
    | .newline => if o.skipsLines then next depth o else return t
    | .word w =>
      let isOpened ← opensAlias o.knowsAliases w
      if isOpened then next depth o else return t
    | t => return t

/-- Reads a token. -/
def token : Nat → Reader Token
  | 0 => return .ending
  | depth + 1 => do
    match ← peek with
    | none => return .ending
    | some ' ' | some '\t' =>
      skip
      noteBlank
      token depth
    | some '#' =>
      modify fun r => { r with rest := r.rest.dropWhile (· != '\n') }
      token depth
    | some '\n' =>
      skip
      readDocuments depth
      return .newline
    | some '&' => skip; return .symbol (if ← skips '&' then "&&" else "&")
    | some '|' => skip; return .symbol (if ← skips '|' then "||" else "|")
    | some ';' => skip; return .symbol (if ← skips ';' then ";;" else ";")
    | some '(' => skip; return .symbol "("
    | some ')' => skip; return .symbol ")"
    | some _ => wordToken (← pieces depth .plain [])

/-- Commands up to the end of a list. -/
def list : Nat → ListKind → List Statement → Reader (List Statement)
  | 0, _, done => return done
  | depth + 1, kind, done => do
    let t ← next depth (if kind = .line then .opening else .later)
    match t with
    | .newline => return done
    | .ending =>
      push t
      return done
    | t =>
      push t
      if t.closesList && kind != .line && (kind = .maybeEmpty || !done.isEmpty) then return done
      let body ← chain depth
      let end_ ← next depth .plain
      let done := done ++ [if end_.isSymbol "&" then .background body else body]
      match end_ with
      | .ending =>
        push end_
        return done
      | .newline =>
        push end_
        list depth kind done
      | end_ =>
        if end_.isSymbol "&" || end_.isSymbol ";" then list depth kind done
        else if kind = .line then unexpected end_ none
        else
          push end_
          return done

/-- Commands joined by the signs for success and failure, which bind from the left. -/
def chain : Nat → Reader Statement
  | 0 => return .nothing
  | depth + 1 => do
    let first ← pipeline depth
    links depth first

def links : Nat → Statement → Reader Statement
  | 0, first => return first
  | depth + 1, first => do
    let t ← next depth .plain
    if t.isSymbol "&&" then
      let second ← pipeline depth
      links depth (.both first second)
    else if t.isSymbol "||" then
      let second ← pipeline depth
      links depth (.either first second)
    else
      push t
      return first

/-- Commands joined by pipes, with or without a negation in front. -/
def pipeline : Nat → Reader Statement
  | 0 => return .nothing
  | depth + 1 => do
    let t ← next depth .later
    let isNegated := t.isKeyword "!"
    if !isNegated then push t
    let first ← command depth false
    let others ← pipeParts depth
    let body := if others.isEmpty then first else .pipe (first :: others)
    return if isNegated then .negated body else body

def pipeParts : Nat → Reader (List Statement)
  | 0 => return []
  | depth + 1 => do
    let t ← next depth .plain
    if t.isSymbol "|" then
      let part ← command depth true
      return part :: (← pipeParts depth)
    else
      push t
      return []

/-- One command. -/
def command : Nat → Bool → Reader Statement
  | 0, _ => return .nothing
  | depth + 1, skipsLines => do
    let line := (← get).line
    let t ← next depth (if skipsLines then .later else .opening)
    match t with
    | .keyword "if" =>
      let body ← branches depth
      redirectedBy depth line body (← next depth .opening) "fi"
    | .keyword "while" =>
      repetition depth line false
    | .keyword "until" =>
      repetition depth line true
    | .keyword "for" => forEach depth line
    | .keyword "case" => select depth line
    | .symbol "(" =>
      let body := Statement.sequence (← list depth .required [])
      let t ← next depth .opening
      if !t.isSymbol ")" then unexpected t (some (Token.quoted ")"))
      return .subshell line body (← redirections depth .opening)
    | .keyword "\x7b" =>
      let body := Statement.sequence (← list depth .required [])
      redirectedBy depth line body (← next depth .opening) "\x7d"
    | .word _ | .redirection .. =>
      push t
      simple depth
    | t => unexpected t none

/-- Closes a compound command, and reads the redirections behind it. -/
def redirectedBy : Nat → Nat → Statement → Token → String → Reader Statement
  | 0, _, body, _, _ => return body
  | depth + 1, line, body, t, closer => do
    if !t.isKeyword closer then unexpected t (some (Token.quoted closer))
    withRedirections depth line body

def withRedirections : Nat → Nat → Statement → Reader Statement
  | 0, _, body => return body
  | depth + 1, line, body => do
    let found ← redirections depth .opening
    return if found.isEmpty then body else .redirected line body found

/-- The condition and the branches behind the keyword of a choice. -/
def branches : Nat → Reader Statement
  | 0 => return .nothing
  | depth + 1 => do
    let condition := Statement.sequence (← list depth .required [])
    let t ← next depth .opening
    if !t.isKeyword "then" then unexpected t (some (Token.quoted "then"))
    let yes := Statement.sequence (← list depth .required [])
    let t ← next depth .opening
    if t.isKeyword "elif" then return .choose condition yes (← branches depth)
    else if t.isKeyword "else" then
      return .choose condition yes (.sequence (← list depth .required []))
    else
      push t
      return .choose condition yes .nothing

def repetition : Nat → Nat → Bool → Reader Statement
  | 0, _, _ => return .nothing
  | depth + 1, line, untilTrue => do
    let condition := Statement.sequence (← list depth .required [])
    let body ← loopBody depth false
    withRedirections depth line (.loop untilTrue condition body)

/-- The body of a loop with its keywords. -/
def loopBody : Nat → Bool → Reader Statement
  | 0, _ => return .nothing
  | depth + 1, skipsLines => do
    let t ← next depth (if skipsLines then .later else .opening)
    if !t.isKeyword "do" then unexpected t (some (Token.quoted "do"))
    let body := Statement.sequence (← list depth .required [])
    let t ← next depth .opening
    if !t.isKeyword "done" then unexpected t (some (Token.quoted "done"))
    return body

def forEach : Nat → Nat → Reader Statement
  | 0, _ => return .nothing
  | depth + 1, line => do
    let name ←
      match ← next depth .plain with
      | .word w =>
        match w.literal? with
        | some name => if isName name then pure name else fail .badLoopVariable
        | none => fail .badLoopVariable
      | _ => fail .badLoopVariable
    let t ← next depth .later
    let words ←
      if t.isKeyword "in" then do
        let words ← wordList depth
        let t ← next depth .plain
        match t with
        | .newline => pure ()
        | t => if !t.isSymbol ";" then unexpected t none
        pure (some words)
      else do
        if !t.isSymbol ";" then push t
        pure none
    let body ← loopBody depth true
    withRedirections depth line (.forEach line name words body)

def wordList : Nat → Reader (List Word)
  | 0 => return []
  | depth + 1 => do
    match ← next depth .plain with
    | .word w => return w :: (← wordList depth)
    | t =>
      push t
      return []

def select : Nat → Nat → Reader Statement
  | 0, _ => return .nothing
  | depth + 1, line => do
    match ← next depth .plain with
    | .word subject =>
      let t ← next depth .later
      if !t.isKeyword "in" then unexpected t (some (Token.quoted "in"))
      let found ← arms depth
      withRedirections depth line (.select line subject found)
    | t => unexpected t (some "word")

/-- The arms of a selection, and the word that closes it. -/
def arms : Nat → Reader (List (List Word × Statement))
  | 0 => return []
  | depth + 1 => do
    let t ← next depth .arm
    if t.isKeyword "esac" then return []
    let t ← if t.isSymbol "(" then next depth .plain else pure t
    let patterns ← patternsFrom depth t
    let t ← next depth .plain
    if !t.isSymbol ")" then unexpected t (some (Token.quoted ")"))
    let body := Statement.sequence (← list depth .maybeEmpty [])
    let t ← next depth .arm
    if t.isKeyword "esac" then return [(patterns, body)]
    else if t.isSymbol ";;" then return (patterns, body) :: (← arms depth)
    else unexpected t (some (Token.quoted ";;"))

/-- Patterns from a token on, between bars. -/
def patternsFrom : Nat → Token → Reader (List Word)
  | 0, _ => return []
  | depth + 1, t => do
    let pattern := t.word?.getD []
    let t ← next depth .plain
    if t.isSymbol "|" then return pattern :: (← patternsFrom depth (← next depth .plain))
    else
      push t
      return [pattern]

/-- The redirections that come next; a word that closes a command is known only in front of them. -/
def redirections : Nat → Outlook → Reader (List Redirection)
  | 0, _ => return []
  | depth + 1, o => do
    match ← next depth o with
    | .redirection descriptor sign =>
      let r ← redirection depth descriptor sign
      return r :: (← redirections depth .plain)
    | t =>
      push t
      return []

/-- A redirection behind its sign. -/
def redirection : Nat → Nat → RedirectionSign → Reader Redirection
  | 0, descriptor, _ => return .duplicate descriptor []
  | depth + 1, descriptor, sign => do
    match sign with
    | .document dropsTabs =>
      match (← peekAhead) with
      | none => unexpected .ending none
      | some c =>
        if endsWord c then unexpected (← next depth .plain) none
        else return .document descriptor (← documentWord dropsTabs)
    | .file mode =>
      match ← next depth .plain with
      | .word w => return .file descriptor mode w
      | t => unexpected t none
    | .duplicate =>
      match ← next depth .plain with
      | .word w => return .duplicate descriptor w
      | t => unexpected t none

/-- A simple command, or the definition of a function. -/
def simple : Nat → Reader Statement
  | 0 => return .nothing
  | depth + 1 => do
    let line := (← get).line
    parts depth line [] [] []

/-- The parts of a simple command behind those that were read. -/
def parts : Nat → Nat → List (Octets × Word) → List Word → List Redirection → Reader Statement
  | 0, line, assignments, words, found => return .simple line assignments words found
  | depth + 1, line, assignments, words, found => do
    let t ← next depth (if words.isEmpty then .part else .plain)
    match t with
    | .word w =>
      match if words.isEmpty then w.assignment? else none with
      | some a => parts depth line (assignments ++ [a]) words found
      | none => parts depth line assignments (words ++ [w]) found
    | .redirection descriptor sign =>
      let r ← redirection depth descriptor sign
      parts depth line assignments words (found ++ [r])
    | t =>
      match words with
      | [w] =>
        if t.isSymbol "(" && assignments.isEmpty && found.isEmpty then definition depth w
        else
          push t
          return .simple line assignments words found
      | _ =>
        push t
        return .simple line assignments words found

/-- The definition of a function behind its name and an opening parenthesis. -/
def definition : Nat → Word → Reader Statement
  | 0, _ => return .nothing
  | depth + 1, w => do
    let t ← next depth .plain
    if !t.isSymbol ")" then unexpected t (some (Token.quoted ")"))
    match w.literal? with
    | some name =>
      if isName name && !specialCommands.any fun s => s.toList = name then
        return .define name (← command depth true)
      else fail .badFunctionName
    | none => fail .badFunctionName

end

/-- The next complete command of a script; nothing where the script ends. -/
def nextCommand : Reader (Option (List Statement)) := do
  let r ← get
  let replaced := r.aliases.foldl (fun n a => n + a.2.length) 0
  let depth := 16 * (r.rest.length + 8) * (replaced + 1)
  match ← next depth .opening with
  | .ending => return none
  | t =>
    push t
    return some (← list depth .line [])

end Reader

end Storyboard.Shell
