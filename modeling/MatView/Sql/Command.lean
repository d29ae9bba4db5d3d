import MatView.Sql.Alteration

/-!
# Reading commands

Commands are statements that are no queries. Nothing of them matters but their kind and that they
are well formed.

## Main definitions

* `transactionModes`, `transactionEnd`, `assignmentCommand`: transactions and settings.
* `showing`, `explanation`: commands that ask for something besides rows.
* `merging`, `copying`, `granting`: commands that change rows and rights.
* `commandOf`: the rest of a command behind its first word.
* `statementAt`: any statement.
-/

namespace MatView.Sql

open Reader

/-! ## Transactions -/

/-- Reads a mode of a transaction if there is one. -/
def transactionMode? : Reader Bool := do
  if ← keywords? ["ISOLATION", "LEVEL"] then
    skip (phrase [["READ", "UNCOMMITTED"], ["READ", "COMMITTED"], ["REPEATABLE", "READ"],
      ["SERIALIZABLE"]])
    return true
  else finds (phrase? [["READ", "ONLY"], ["READ", "WRITE"]])

/-- Reads at most `n` modes of a transaction. A mode must follow a comma. -/
def transactionModesUpTo (required : Bool) : Nat → Reader Unit
  | 0 => return
  | n + 1 => do
    if ← transactionMode? then transactionModesUpTo (← symbol? ",") n
    else if required then fail

/-- Reads the modes of a transaction. -/
def transactionModes : Reader Unit := do
  transactionModesUpTo false ((← remaining) + 1)

/-- Reads the end of a transaction. -/
def transactionEnd : Reader Unit := do
  skip (oneOf? ["TRANSACTION", "WORK"])
  skipIf (keyword? "AND") do
    skip (keyword? "NO")
    keyword "CHAIN"

/-- Reads where a transaction is taken back to. -/
def rollback : Reader Unit := do
  transactionEnd
  skipIf (keyword? "TO") do
    skip (keyword? "SAVEPOINT")
    skip ident

/-! ## Rights -/

/-- Reads a right on a thing. -/
def right : Reader Unit := do
  let word ←
    oneOf ["CONNECT", "CREATE", "DELETE", "EXECUTE", "INSERT", "REFERENCES", "SELECT",
      "TEMPORARY", "TRIGGER", "TRUNCATE", "UPDATE", "USAGE"]
  if ["INSERT", "REFERENCES", "SELECT", "UPDATE"].contains word then skip columnNames?

/-- Reads rights and what they are on. -/
def rights : Reader Unit := do
  if ← keyword? "ALL" then skip (keyword? "PRIVILEGES")
  else skip (commaList right)
  keyword "ON"
  let front ←
    phrase? [["ALL", "TABLES", "IN", "SCHEMA"], ["ALL", "SEQUENCES", "IN", "SCHEMA"]]
  if front.isNone then skip (oneOf? ["SEQUENCE", "SCHEMA", "TABLE"])
  skip (commaList objectName)

/-- Reads what is granted to whom. -/
def granting : Reader Unit := do
  rights
  keyword "TO"
  skip (commaList ident)
  skip (keywords? ["WITH", "GRANT", "OPTION"])
  skipIf (keywords? ["GRANTED", "BY"]) ident

/-- Reads what is revoked from whom. -/
def revoking : Reader Unit := do
  rights
  keyword "FROM"
  skip (commaList ident)
  skipIf (keywords? ["GRANTED", "BY"]) ident
  dependents

/-! ## Short commands -/

/-- Reads a name, with a word before it that may be missing. -/
def nameBehind (word : String) : Reader Unit := do
  skip (keyword? word)
  skip ident

/-- Reads which connection or change is stopped. -/
def killing : Reader Unit := do
  skip (oneOf? ["CONNECTION", "QUERY", "MUTATION"])
  skip natural

/-- Reads at most `n` words on the tables that are flushed, up to what is no word. -/
def flushedTablesUpTo : Nat → Reader Unit
  | 0 => return
  | n + 1 => do
    match ← attempt next with
    | none => return
    | some t =>
      match t with
      | .word _ =>
        if t.isAmong ["WITH"] then skip (keywords? ["READ", "LOCK"])
        else if t.isAmong ["FOR"] then skip (keyword? "EXPORT")
        else if t.isPlainWord then
          skip (many (symbol? ".") ident)
          skip (many (symbol? ",") objectName)
        flushedTablesUpTo n
      | _ => return

/-- Reads what is flushed. -/
def flushing : Reader Unit := do
  skip (oneOf? ["NO_WRITE_TO_BINLOG", "LOCAL"])
  let phrases :=
    [["BINARY", "LOGS"], ["ENGINE", "LOGS"], ["ERROR", "LOGS"], ["GENERAL", "LOGS"], ["HOSTS"],
      ["PRIVILEGES"], ["OPTIMIZER_COSTS"], ["RELAY", "LOGS"], ["SLOW", "LOGS"], ["STATUS"],
      ["USER_RESOURCES"], ["LOGS"], ["TABLES"]]
  match ← phrase phrases with
  | "RELAY LOGS" => skipIf (keywords? ["FOR", "CHANNEL"]) objectName
  | "TABLES" => flushedTablesUpTo (← remaining)
  | _ => return

/-- Reads which partitions of a table are repaired. -/
def repair : Reader Unit := do
  skip (keyword? "REPAIR")
  keyword "TABLE"
  skip objectName
  skip (attempt do
    skip (oneOf? ["ADD", "DROP", "SYNC"])
    keyword "PARTITIONS")

/-- Reads how many rows a cursor gives, and which ones. -/
def cursorDirection : Reader Unit := do
  match ← oneOf? ["NEXT", "PRIOR", "FIRST", "LAST", "ALL", "ABSOLUTE", "RELATIVE", "FORWARD",
      "BACKWARD"] with
  | none => skip quantity
  | some word =>
    if ["ABSOLUTE", "RELATIVE"].contains word then skip quantity
    else if ["FORWARD", "BACKWARD"].contains word then
      unless ← keyword? "ALL" do skip quantity

/-- Reads which rows of a cursor are fetched. -/
def cursorFetching : Reader Unit := do
  cursorDirection
  skip (oneOf ["FROM", "IN"])
  skip ident
  skipIf (keyword? "INTO") objectName

/-- Reads a setting of the store that a name or a value follows. -/
def pragma : Reader Unit := do
  let kinds := [ConstantKind.number, .text, .placeholder]
  skip objectName
  if ← atSymbol "(" then skip (inParens (constantOf kinds))
  else skipIf (symbol? "=") (constantOf kinds)

/-- Reads what a thing is commented with. -/
def commenting : Reader Unit := do
  ifThere
  keyword "ON"
  skip (oneOf ["COLUMN", "TABLE", "EXTENSION", "SCHEMA", "DATABASE", "USER", "ROLE"])
  skip objectName
  keyword "IS"
  unless ← keyword? "NULL" do skip textual

section

variable (inner : Inner)

/-! ## Settings -/

/-- Reads the new values of settings, the names of which may stand between parentheses. -/
def settingValues (enclosed : Bool) : Reader Unit := do
  let value : Reader Unit := do
    if ← Inner.atQuery then skip inner.query else skip inner.whole
  if enclosed then skip (parenList value) else skip (commaList value)

/-- Reads the characters that texts are exchanged in. -/
def characterNames : Reader Unit := do
  unless ← keyword? "DEFAULT" do
    skip textual
    skipIf (keyword? "COLLATE") textual

/-- Reads the rest of a setting behind its name. -/
def settingTail (plain : Bool) (name : String) : Reader Unit := do
  if ← either (symbol? "=") (keyword? "TO") then settingValues inner false
  else if Text.upperAscii name == "TIMEZONE" then skip inner.whole
  else if name == "CHARACTERISTICS" then
    keywords ["AS", "TRANSACTION"]
    transactionModes
  else if name == "TRANSACTION" && plain then
    if ← keyword? "SNAPSHOT" then skip constant else transactionModes
  else fail

/-- Reads whose rights are taken over. -/
def takenRole : Reader Unit := do
  keyword "ROLE"
  unless ← keyword? "NONE" do skip ident

/-- Reads a setting behind the word that tells how long it holds. -/
def settingCommand (plain : Bool) : Reader Unit := do
  if ← keywords? ["TIME", "ZONE"] then settingTail inner plain "TIMEZONE"
  else if ← atSymbol "(" then
    skip columnNames
    unless ← either (symbol? "=") (keyword? "TO") do fail
    settingValues inner true
  else
    let name := dotted (← objectName)
    if Text.upperAscii name == "NAMES" then characterNames else settingTail inner plain name

/-- Reads what is set. -/
def assignmentCommand : Reader Unit := do
  match ← oneOf? ["SESSION", "LOCAL", "HIVEVAR"] with
  | some "HIVEVAR" =>
    symbol ":"
    settingCommand inner false
  | scope =>
    if (← attempt takenRole).isNone then settingCommand inner scope.isNone

/-! ## Showing and explaining -/

/-- Reads which things are shown. -/
def shownFilter : Reader Unit := do
  if (← oneOf? ["LIKE", "ILIKE"]).isSome then skip textual
  else if ← keyword? "WHERE" then skip inner.whole
  else skip (attempt textual)

/-- Reads things that belong to a database. -/
def shownThings : Reader Unit := do
  skipIf (finds (oneOf? ["FROM", "IN"])) ident
  shownFilter inner

/-- Reads the columns that are shown. -/
def shownColumns : Reader Unit := do
  skip (oneOf ["FROM", "IN"])
  skip objectName
  shownThings inner

/-- Reads the name of a variable: anything up to an equals sign. -/
def shownVariable : Reader Unit :=
  skip (many (return !((← atEnd) || (← atSymbol "="))) next)

/-- Reads what is shown. -/
def showing : Reader Unit := do
  let extended ← keyword? "EXTENDED"
  let full ← keyword? "FULL"
  skip (keyword? "SESSION")
  skip (keyword? "GLOBAL")
  let things? ←
    phrase? [["COLUMNS"], ["FIELDS"], ["TABLES"], ["MATERIALIZED", "VIEWS"], ["VIEWS"],
      ["FUNCTIONS"]]
  match things? with
  | some "FUNCTIONS" => shownFilter inner
  | some word =>
    if word == "COLUMNS" || word == "FIELDS" then shownColumns inner else shownThings inner
  | none =>
    if extended || full then fail
    let others := ["CREATE", "COLLATION", "VARIABLES", "STATUS", "DATABASES", "SCHEMAS"]
    match ← oneOf? others with
    | some "CREATE" =>
      skip (oneOf ["TABLE", "TRIGGER", "FUNCTION", "PROCEDURE", "EVENT", "VIEW"])
      skip objectName
    | some _ => shownFilter inner
    | none => shownVariable

/-- Reads options of an explanation. -/
def explanationOptions : Reader Unit :=
  skip (parenList do
    skip ident
    unless (← atSymbol ",") || (← atSymbol ")") do skip inner.whole)

/-- Reads what is explained: a statement that explains nothing itself, or a table. -/
def explanation (explained : Reader Statement) (word : String) : Reader Unit := do
  if word == "EXPLAIN" && (← atSymbol "(") then explanationOptions inner
  else unless ← keywords? ["QUERY", "PLAN"] do
    skip (keyword? "ANALYZE")
    skip (keyword? "VERBOSE")
    skipIf (keyword? "FORMAT") (oneOf ["TEXT", "GRAPHVIZ", "JSON"])
  let isExplanation ← startsWith ["EXPLAIN", "DESCRIBE", "DESC"]
  if (← attempt explained).isSome then
    if isExplanation then fail
  else
    skip (oneOf? ["EXTENDED", "FORMATTED"])
    skip objectName

/-! ## Changes of many rows -/

/-- Reads which rows are dropped with their table kept. -/
def truncation : Reader Unit := do
  skip (keyword? "TABLE")
  skip (keyword? "ONLY")
  skip (commaList objectName)
  skipIf (keyword? "PARTITION") inner.tuple
  skip (phrase? [["RESTART", "IDENTITY"], ["CONTINUE", "IDENTITY"]])
  dependents
  onCluster

/-- Reads what happens to rows of the target of a merge. -/
def mergeAction (changes inserts : Bool) : Reader Unit := do
  match ← oneOf ["UPDATE", "INSERT", "DELETE"] with
  | "UPDATE" =>
    unless changes do fail
    keyword "SET"
    skip (assignments inner)
  | "DELETE" => unless changes do fail
  | _ =>
    unless inserts do fail
    skip columnNames?
    unless ← keyword? "ROW" do
      keyword "VALUES"
      skip (rows inner)

/-- Reads what a merge does with some rows. -/
def mergeClause : Reader Unit := do
  keyword "WHEN"
  let missing ← keyword? "NOT"
  keyword "MATCHED"
  let side ← if missing then phrase? [["BY", "SOURCE"], ["BY", "TARGET"]] else pure none
  skip (inner.clause "AND")
  keyword "THEN"
  let inserts := missing && side != some "BY SOURCE"
  mergeAction inner (!inserts) inserts

/-- Reads how rows are merged into a table. -/
def merging : Reader Unit := do
  skip (keyword? "INTO")
  skip (factor inner)
  keyword "USING"
  skip (factor inner)
  keyword "ON"
  skip inner.whole
  skip (many (return !((← atEnd) || (← atSymbol ";"))) (mergeClause inner))

/-- Reads a text of one byte. -/
def singleByte : Reader Unit := do
  unless (← textual).utf8ByteSize == 1 do fail

/-- Reads an option of a copy. -/
def copyOption : Reader Unit := do
  let word ←
    oneOf ["FORMAT", "FREEZE", "DELIMITER", "NULL", "HEADER", "QUOTE", "ESCAPE", "FORCE_QUOTE",
      "FORCE_NOT_NULL", "FORCE_NULL", "ENCODING"]
  match word with
  | "FORMAT" => skip ident
  | "FREEZE" | "HEADER" => skip (oneOf? ["TRUE", "FALSE"])
  | "DELIMITER" | "QUOTE" | "ESCAPE" => singleByte
  | "NULL" | "ENCODING" => skip textual
  | _ => skip columnNames

/-- Reads an option of a copy of values with commas between them. -/
def commaOption : Reader Unit := do
  match ← phrase [["HEADER"], ["QUOTE"], ["ESCAPE"], ["FORCE", "NOT", "NULL"],
      ["FORCE", "QUOTE"]] with
  | "HEADER" => return
  | "QUOTE" | "ESCAPE" =>
    skip (keyword? "AS")
    singleByte
  | _ => skip (commaList ident)

/-- Reads an option of a copy in its older form. -/
def olderCopyOption : Reader Unit := do
  match ← oneOf ["BINARY", "DELIMITER", "NULL", "CSV"] with
  | "BINARY" => return
  | "DELIMITER" =>
    skip (keyword? "AS")
    singleByte
  | "NULL" =>
    skip (keyword? "AS")
    skip textual
  | _ => skip (many (finds (attempt commaOption)) (pure ()))

/-- What stands behind the end mark of rows that follow a command. -/
def behindRows : List Token → List Token
  | [] => []
  | t :: rest =>
    if t == .symbol "\\" && rest.head? == some (.symbol ".") then rest.drop 1 else behindRows rest

/-- Reads rows that follow a command, up to their end mark. -/
def followingRows : Reader Unit := do
  symbol ";"
  modify behindRows

/-- Reads what is copied, and where it is copied to. -/
def copying : Reader Unit := do
  let isQuery ← atSymbol "("
  if isQuery then skip inner.enclosedQuery
  else
    skip objectName
    skip columnNames?
  let direction ← oneOf ["FROM", "TO"]
  if isQuery && direction == "FROM" then fail
  let place ← oneOf? ["STDIN", "STDOUT", "PROGRAM"]
  if place.isNone || place == some "PROGRAM" then skip textual
  skip (keyword? "WITH")
  if ← atSymbol "(" then skip (parenList copyOption)
  skip (many (finds (attempt olderCopyOption)) (pure ()))
  if place == some "STDIN" then followingRows

/-! ## Other commands -/

/-- Reads what is measured of a table. -/
def analysis : Reader Unit := do
  keyword "TABLE"
  skip objectName
  let part? : Reader Bool := do
    match ← oneOf? ["PARTITION", "FOR", "CACHE", "NOSCAN", "COMPUTE"] with
    | none => return false
    | some word =>
      match word with
      | "PARTITION" => skip inner.tuple
      | "FOR" =>
        keyword "COLUMNS"
        skip (attempt (commaList ident))
      | "CACHE" => keyword "METADATA"
      | "COMPUTE" => keyword "STATISTICS"
      | _ => return true
      return true
  skip (many part? (pure ()))

/-- Reads which rows are kept in memory. -/
def caching : Reader Unit := do
  unless ← keyword? "TABLE" do
    skip objectName
    keyword "TABLE"
  skip objectName
  settings? inner "OPTIONS"
  unless ← atEnd do
    match ← peek with
    | some (.word _) =>
      skip (keyword? "AS")
      skip inner.query
    | _ => fail

/-- Reads which cursor is declared. -/
def cursorDeclaration : Reader Unit := do
  skip ident
  skip (keyword? "BINARY")
  skip (oneOf? ["INSENSITIVE", "ASENSITIVE"])
  skip (phrase? [["SCROLL"], ["NO", "SCROLL"]])
  keyword "CURSOR"
  skipIf (finds (oneOf? ["WITH", "WITHOUT"])) (keyword "HOLD")
  keyword "FOR"
  skip inner.query

/-- Reads which prepared statement is run. -/
def execution : Reader Unit := do
  skip objectName
  if ← atSymbol "(" then skip (inParens (listBefore ")" inner.whole))
  else unless (← atEnd) || (← atSymbol ";") || (← startsWith ["USING"]) do skip inner.exprs
  skipIf (keyword? "USING") inner.exprs

/-- Reads which table is rewritten. -/
def optimization : Reader Unit := do
  keyword "TABLE"
  skip objectName
  onCluster
  skipIf (keyword? "PARTITION") do
    if ← keyword? "ID" then skip ident else skip inner.whole
  skip (keyword? "FINAL")
  skipIf (keyword? "DEDUPLICATE") (skipIf (keyword? "BY") inner.whole)

/-- Reads what is created, with a reader for the statements of a procedure. -/
def creation (block : Reader Unit) : Reader CommandKind := do
  let replaces ← keywords? ["OR", "REPLACE"]
  skip (keywords? ["OR", "ALTER"])
  skip (keyword? "LOCAL")
  skip (keyword? "GLOBAL")
  skip (keyword? "TRANSIENT")
  skip (oneOf? ["TEMP", "TEMPORARY"])
  if ← startsWith ["MATERIALIZED", "VIEW"] then
    viewDefinition inner
    return .other
  else
    let replaceable :=
      [["TABLE"], ["POLICY"], ["EXTERNAL"], ["FUNCTION"], ["TRIGGER"], ["CONSTRAINT", "TRIGGER"],
        ["MACRO"], ["SECRET"]]
    let others :=
      [["EXTENSION"], ["INDEX"], ["UNIQUE", "INDEX"], ["VIRTUAL"], ["SCHEMA"], ["DATABASE"],
        ["ROLE"], ["SEQUENCE"], ["TYPE"], ["PROCEDURE"]]
    match ← phrase (replaceable ++ if replaces then [] else others) with
    | "TABLE" =>
      tableDefinition inner
      return .createTable
    | "EXTERNAL" =>
      externalTable inner
      return .createTable
    | word =>
      match word with
      | "POLICY" => policyDefinition inner
      | "FUNCTION" => functionDefinition inner
      | "TRIGGER" | "CONSTRAINT TRIGGER" => triggerDefinition inner
      | "MACRO" => shorthandDefinition inner
      | "SECRET" => secretDefinition
      | "EXTENSION" => extensionDefinition
      | "INDEX" | "UNIQUE INDEX" => indexDefinition inner
      | "VIRTUAL" => virtualTable
      | "SCHEMA" => schemaDefinition
      | "DATABASE" => databaseDefinition
      | "ROLE" => roleDefinition
      | "SEQUENCE" => sequenceDefinition
      | "TYPE" => typeDefinition
      | _ => procedureDefinition block
      return .other

/-! ## Statements -/

/-- Reads the rest of a command that starts with a word. The statement that is explained or prepared
is read with `nested`, the statements of a procedure with `block`. -/
def commandOf (nested : Reader Statement) (block : Reader Unit) (word : String) :
    Reader CommandKind := do
  match word with
  | "INSERT" | "REPLACE" => return (← insertion inner).kind
  | "UPDATE" => return (← update inner).kind
  | "DELETE" => deletion inner
  | "CREATE" => creation inner block
  | "DROP" => drop inner
  | _ =>
    otherCommand
    return .other
where
  /-- Reads the rest of a command of which only the form matters. -/
  otherCommand : Reader Unit := do
    match word with
    | "EXPLAIN" | "DESCRIBE" | "DESC" => explanation inner nested word
    | "SHOW" => showing inner
    | "TRUNCATE" => truncation inner
    | "ALTER" => alteration inner
    | "COMMIT" | "END" => transactionEnd
    | "ROLLBACK" => rollback
    | "START" =>
      keyword "TRANSACTION"
      transactionModes
    | "BEGIN" =>
      skip (oneOf? ["DEFERRED", "IMMEDIATE", "EXCLUSIVE"])
      skip (oneOf? ["TRANSACTION", "WORK"])
      transactionModes
    | "SAVEPOINT" => skip ident
    | "RELEASE" => nameBehind "SAVEPOINT"
    | "SET" => assignmentCommand inner
    | "USE" => skip objectName
    | "GRANT" => granting
    | "REVOKE" => revoking
    | "KILL" => killing
    | "FLUSH" => flushing
    | "ANALYZE" => analysis inner
    | "ATTACH" =>
      skip (keyword? "DATABASE")
      skip inner.whole
      keyword "AS"
      skip ident
    | "DETACH" =>
      skip (keyword? "DATABASE")
      ifThere
      skip ident
    | "MSCK" => repair
    | "CACHE" => caching inner
    | "UNCACHE" =>
      keyword "TABLE"
      ifThere
      skip objectName
    | "DISCARD" => skip (oneOf ["ALL", "PLANS", "SEQUENCES", "TEMP", "TEMPORARY"])
    | "DECLARE" => cursorDeclaration inner
    | "FETCH" => cursorFetching
    | "CLOSE" => unless ← keyword? "ALL" do skip ident
    | "CALL" =>
      let name ← objectName
      if ← atSymbol "(" then skip (call inner (operand inner) (dotted name))
    | "COPY" => copying inner
    | "ASSERT" =>
      skip inner.whole
      skipIf (keyword? "AS") inner.whole
    | "DEALLOCATE" => nameBehind "PREPARE"
    | "EXECUTE" | "EXEC" => execution inner
    | "PREPARE" =>
      skip ident
      if ← atSymbol "(" then skip (parenList dataType)
      keyword "AS"
      skip nested
    | "MERGE" => merging inner
    | "PRAGMA" => pragma
    | "UNLOAD" =>
      skip inner.enclosedQuery
      keyword "TO"
      skip ident
      settings? inner "WITH"
    | "INSTALL" | "LOAD" => skip ident
    | "OPTIMIZE" => optimization inner
    | "COMMENT" => commenting
    | _ => fail

/-- Whether a query is next. -/
def atStatementQuery : Reader Bool := do
  if ← atSymbol "(" then return true else startsWith ["SELECT", "WITH", "VALUES"]

/-- Reads a statement that may hold what `inner` reads, and further statements. -/
def statementWith (nested : Reader Statement) (block : Reader Unit) : Reader Statement := do
  if ← atStatementQuery then return .query (← inner.query)
  else
    match (← next).keyword? with
    | some word => return .command (← commandOf inner nested block word)
    | none => fail

end

/-! ## Sequences of statements -/

/-- Reads at most `n` statements, each with a statement delimiter before it; `delimited` tells
whether the first one has it already. Behind a statement the word `END` ends the sequence. -/
def statementsUpTo (statement : Reader Statement) (delimited : Bool) :
    Nat → Reader (List Statement)
  | 0 => return []
  | n + 1 => do
    let more := !(← many (symbol? ";") (pure ())).isEmpty
    match ← peek with
    | none => return []
    | some token =>
      if delimited || more then
        let s ← statement
        return s :: (← statementsUpTo statement false n)
      else if token.isAmong ["END"] then return []
      else fail

/-- Reads statements with delimiters between them. -/
def statements (statement : Reader Statement) : Reader (List Statement) := do
  statementsUpTo statement true ((← remaining) + 1)

/-- Reads a statement that may go down a number of levels. -/
def statementAt : Nat → Reader Statement
  | 0 => throw .tooDeep
  | n + 1 => statementWith (level false n) (statementAt n) (skip (statements (statementAt n)))

end MatView.Sql
