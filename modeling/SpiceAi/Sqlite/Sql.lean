import SpiceAi.Loops

/-!
# The SQL the SQLite provisioner sends

Modelled from SQLite's documentation of its lexical rules: the tokenizer, and the meaning of the
two statement shapes the provisioner builds, the `sqlite_master` probe and `DELETE FROM`.

The tokenizer reads one character at a time (`lexStep`), so that lexing a text that splits at a
token boundary is lexing the two parts (`lex_append`). It knows the token classes these statements
use: whitespace, `--` comments, words (keywords and bare identifiers, which SQLite compares without
regard to ASCII case, so they are kept in upper case), integers, string literals in single quotes,
where `''` stands for one quote, identifiers in double quotes, where `""` stands for one double
quote, and the punctuation `( ) = , ; * . -`. A text with any other character, or with a string or
identifier left open, is refused, as SQLite refuses an unrecognized token.
-/

namespace SpiceAi.Sqlite

/-- A token. -/
inductive Token where
  /-- A keyword or a bare identifier, in upper case. -/
  | word (text : String)
  /-- A string literal, with its doubled quotes read as one. -/
  | string (value : String)
  /-- An identifier in double quotes, with its doubled double quotes read as one. -/
  | ident (name : String)
  | number (value : Nat)
  | punct (c : Char)
  deriving DecidableEq, Repr

/-- Why SQLite refuses a statement. -/
inductive SqlError where
  /-- Message "unrecognized token: ..." -/
  | unrecognizedToken
  /-- Message "near ...: syntax error", for a statement outside the shapes modelled here. -/
  | syntaxError
  /-- Message "no such column: ..." -/
  | noSuchColumn (name : String)
  deriving DecidableEq, Repr

/-- Where the tokenizer is: between tokens, or inside a token, with the characters read so far. -/
inductive LexState where
  | start
  | word (text : List Char)
  | number (digits : List Char)
  | string (value : List Char)
  /-- A quote inside a string: it closes the string, unless a second quote follows. -/
  | stringQuote (value : List Char)
  | ident (name : List Char)
  | identQuote (name : List Char)
  /-- A `-`: a comment when a second one follows. -/
  | dash
  | comment
  deriving DecidableEq, Repr

/-! ## The tokenizer -/

/-- SQLite's whitespace. -/
def isSpace (c : Char) : Bool :=
  c = ' ' || c = '\t' || c = '\n' || c = '\r' || c.toNat = 12

/-- A character that may start a bare identifier: a letter, `_`, or any character past ASCII. -/
def isIdStart (c : Char) : Bool :=
  c.isAlpha || c = '_' || 128 ≤ c.toNat

/-- A character that may continue a bare identifier. -/
def isIdChar (c : Char) : Bool :=
  isIdStart c || c.isDigit || c = '$'

/-- The punctuation characters that are tokens on their own. -/
def isPunct (c : Char) : Bool :=
  c = '(' || c = ')' || c = '=' || c = ',' || c = ';' || c = '*' || c = '.'

/-- The word token of the characters read. -/
def wordToken (text : List Char) : Token :=
  .word (String.mk (text.map Char.toUpper))

/-- The value of a run of decimal digits. -/
def digitsValue (digits : List Char) : Nat :=
  digits.foldl (fun n c => 10 * n + (c.toNat - 48)) 0

/-- The tokenizer between tokens. -/
def startStep (c : Char) : Except SqlError (LexState × List Token) :=
  if isSpace c then .ok (.start, [])
  else if c = '\x27' then .ok (.string [], [])
  else if c = '"' then .ok (.ident [], [])
  else if c = '-' then .ok (.dash, [])
  else if c.isDigit then .ok (.number [c], [])
  else if isIdStart c then .ok (.word [c], [])
  else if isPunct c then .ok (.start, [.punct c])
  else .error .unrecognizedToken

/-- Emit a finished token, then read `c` between tokens. -/
def emitThen (t : Token) (c : Char) : Except SqlError (LexState × List Token) :=
  (startStep c).map fun p => (p.1, t :: p.2)

/-- One character of input. -/
def lexStep : LexState → Char → Except SqlError (LexState × List Token)
  | .start, c => startStep c
  | .word text, c => if isIdChar c then .ok (.word (text ++ [c]), []) else emitThen (wordToken text) c
  | .number ds, c =>
    if c.isDigit then .ok (.number (ds ++ [c]), []) else emitThen (.number (digitsValue ds)) c
  | .string v, c => if c = '\x27' then .ok (.stringQuote v, []) else .ok (.string (v ++ [c]), [])
  | .stringQuote v, c =>
    if c = '\x27' then .ok (.string (v ++ [c]), []) else emitThen (.string (String.mk v)) c
  | .ident n, c => if c = '"' then .ok (.identQuote n, []) else .ok (.ident (n ++ [c]), [])
  | .identQuote n, c =>
    if c = '"' then .ok (.ident (n ++ [c]), []) else emitThen (.ident (String.mk n)) c
  | .dash, c => if c = '-' then .ok (.comment, []) else emitThen (.punct '-') c
  | .comment, c => if c = '\n' then .ok (.start, []) else .ok (.comment, [])

/-- The tokens left at the end of the input; an open string or identifier is refused. -/
def lexFinish : LexState → Except SqlError (List Token)
  | .start | .comment => .ok []
  | .word text => .ok [wordToken text]
  | .number ds => .ok [.number (digitsValue ds)]
  | .stringQuote v => .ok [.string (String.mk v)]
  | .identQuote n => .ok [.ident (String.mk n)]
  | .dash => .ok [.punct '-']
  | .string _ | .ident _ => .error .unrecognizedToken

/-- One character of input, with the tokens emitted so far. -/
def lexChar (p : LexState × List Token) (c : Char) : Except SqlError (LexState × List Token) :=
  (lexStep p.1 c).map fun q => (q.1, p.2 ++ q.2)

/-- The tokenizer over a list of characters, from state `st`. -/
def lex (st : LexState) (cs : List Char) : Except SqlError (LexState × List Token) :=
  cs.foldlM lexChar (st, [])

/-- The tokens of a statement. -/
def tokenize (sql : String) : Except SqlError (List Token) := do
  let (st, ts) ← lex .start sql.data
  let rest ← lexFinish st
  pure (ts ++ rest)

/-! ## Lexing in parts -/

theorem foldlM_lexChar_tokens (ts : List Token) :
    ∀ (cs : List Char) (st : LexState), cs.foldlM lexChar (st, ts) =
      (cs.foldlM lexChar (st, [])).map fun p => (p.1, ts ++ p.2)
  | [], st => by simp [Except.map]
  | c :: cs, st => by
    simp only [List.foldlM_cons, lexChar]
    cases lexStep st c with
    | error e => rfl
    | ok q =>
      simp only [Except.map, ok_bind, List.nil_append]
      rw [foldlM_lexChar_tokens (ts ++ q.2) cs q.1, foldlM_lexChar_tokens q.2 cs q.1]
      cases cs.foldlM lexChar (q.1, []) <;> simp [Except.map]

/-- Lexing `xs ++ ys` is lexing `xs`, then `ys` from the state `xs` leaves. -/
theorem lex_append {st st' : LexState} {xs : List Char} {ts : List Token} (ys : List Char)
    (h : lex st xs = .ok (st', ts)) :
    lex st (xs ++ ys) = (lex st' ys).map fun p => (p.1, ts ++ p.2) := by
  unfold lex at *
  rw [List.foldlM_append, h, ok_bind, foldlM_lexChar_tokens]

/-- One character, then the rest. -/
theorem lex_cons (st : LexState) (c : Char) (cs : List Char) :
    lex st (c :: cs) =
      lexStep st c >>= fun q => (lex q.1 cs).map fun p => (p.1, q.2 ++ p.2) := by
  unfold lex
  rw [List.foldlM_cons, lexChar]
  cases lexStep st c with
  | error e => rfl
  | ok q =>
    simp only [Except.map, ok_bind, List.nil_append]
    exact foldlM_lexChar_tokens q.2 cs q.1

/-- The body of a string literal without a quote is read into the string. -/
theorem lex_string_body (v : List Char) :
    ∀ cs : List Char, '\x27' ∉ cs → lex (.string v) cs = .ok (.string (v ++ cs), [])
  | [], _ => by simp [lex]
  | c :: cs, hc => by
    have hne : c ≠ '\x27' := fun h => hc (h ▸ List.mem_cons_self c cs)
    rw [lex_cons, lexStep, if_neg hne, ok_bind,
      lex_string_body (v ++ [c]) cs fun h => hc (List.mem_cons_of_mem c h)]
    simp [Except.map]

/-- The body of a quoted identifier without a double quote is read into the identifier. -/
theorem lex_ident_body (n : List Char) :
    ∀ cs : List Char, '"' ∉ cs → lex (.ident n) cs = .ok (.ident (n ++ cs), [])
  | [], _ => by simp [lex]
  | c :: cs, hc => by
    have hne : c ≠ '"' := fun h => hc (h ▸ List.mem_cons_self c cs)
    rw [lex_cons, lexStep, if_neg hne, ok_bind,
      lex_ident_body (n ++ [c]) cs fun h => hc (List.mem_cons_of_mem c h)]
    simp [Except.map]

/-! ## What the statements mean -/

/-- A row of `sqlite_master`, with the two columns the probe reads. -/
structure MasterRow where
  type_ : String
  name : String
  deriving DecidableEq, Repr

/-- An operand of a comparison: a column, a string or an integer. -/
inductive Operand where
  | column (name : String)
  | string (value : String)
  | number (value : Nat)
  deriving DecidableEq, Repr

/-- A value. SQLite compares a string and an integer as different. -/
inductive Value where
  | text (s : String)
  | integer (n : Nat)
  deriving DecidableEq, Repr

@[simp] theorem Value.text_beq_text (a b : String) : (Value.text a == Value.text b) = (a == b) := by
  cases h : a == b <;> simp_all

/-- The operand a token stands for. -/
def parseOperand : Token → Option Operand
  | .word w => some (.column w)
  | .ident n => some (.column (String.mk (n.data.map Char.toUpper)))
  | .string s => some (.string s)
  | .number n => some (.number n)
  | .punct _ => none

/-- A comparison `a = b`. -/
def parseComparison : List Token → Option (Operand × Operand)
  | [a, .punct '=', b] => do pure (← parseOperand a, ← parseOperand b)
  | _ => none

/-- A `WHERE` clause of comparisons joined by `AND`, joined by `OR`; `AND` binds tighter. -/
def parseWhere (ts : List Token) : Option (List (List (Operand × Operand))) :=
  (ts.splitOn (.word "OR")).mapM fun conj => (conj.splitOn (.word "AND")).mapM parseComparison

/-- The value of an operand on a row of `sqlite_master`; `none` for an unknown column. -/
def Operand.eval (row : MasterRow) : Operand → Option Value
  | .column "TYPE" => some (.text row.type_)
  | .column "NAME" => some (.text row.name)
  | .column _ => none
  | .string s => some (.text s)
  | .number n => some (.integer n)

/-- The first unknown column a clause names. -/
def unknownColumn (w : List (List (Operand × Operand))) : Option String :=
  (w.flatMap fun conj => conj.flatMap fun p => [p.1, p.2]).findSome? fun
    | .column c => if c = "TYPE" ∨ c = "NAME" then none else some c
    | _ => none

/-- Whether a row satisfies a clause. -/
def satisfies (row : MasterRow) (w : List (List (Operand × Operand))) : Bool :=
  w.any fun conj => conj.all fun p => p.1.eval row == p.2.eval row

/-- The tokens `SELECT EXISTS ( SELECT 1 FROM sqlite_master WHERE` that open the probe. -/
def probeHead : List Token :=
  [.word "SELECT", .word "EXISTS", .punct '(', .word "SELECT", .number 1, .word "FROM",
    .word "SQLITE_MASTER", .word "WHERE"]

/-- The clause of `SELECT EXISTS (SELECT 1 FROM sqlite_master WHERE clause)`. -/
def parseProbe (ts : List Token) : Option (List (List (Operand × Operand))) :=
  if ts.take 8 = probeHead ∧ ts.getLast? = some (.punct ')') ∧ 9 ≤ ts.length then
    parseWhere (ts.drop 8).dropLast
  else none

/-- The value of the probe on a catalog: whether a row satisfies the clause. -/
def runProbe (catalog : List MasterRow) (sql : String) : Except SqlError Bool := do
  let ts ← tokenize sql
  let some w := parseProbe ts | throw .syntaxError
  if let some c := unknownColumn w then throw (.noSuchColumn c)
  pure (catalog.any (satisfies · w))

/-- The table `DELETE FROM table` or `DELETE FROM table WHERE ...` deletes from. -/
def deleteTarget (sql : String) : Except SqlError String := do
  let ts ← tokenize sql
  match ts with
  | .word "DELETE" :: .word "FROM" :: .ident n :: rest
  | .word "DELETE" :: .word "FROM" :: .word n :: rest =>
    if rest = [] ∨ rest.head? = some (.word "WHERE") then pure n else throw .syntaxError
  | _ => throw .syntaxError

end SpiceAi.Sqlite
