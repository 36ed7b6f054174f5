import Shroud.Netfilter
import Shroud.Text

namespace Shroud.FwWrapper

open Netfilter

/-!
# The firewall wrapper

`shroud-fw-lib.sh` stands between the daemon and the three privileged tools.
It looks at the arguments, and for `nft -f -` at the standard input, and either
refuses with a reason or hands the call to the real binary.

Arguments are compared as the shell compares them: one by one, or joined with
blanks (`"$*"`).  The scan of an nft script is the pair of `grep` calls of the
source: all leftmost longest matches of one expression, line by line.
-/

/-- `SHROUD_FW_TOOL`: the tool behind a stub. -/
inductive FwTool where
  | xtables (tool : Tool)
  | nft
  deriving Repr, DecidableEq

def FwTool.name : FwTool → String
  | .xtables .iptables => "iptables"
  | .xtables .ip6tables => "ip6tables"
  | .nft => "nft"

/-- `KS_CHAIN`. -/
def ksChain : String := "SHROUD_KILLSWITCH"

/-- `BOOT_CHAIN`. -/
def bootChain : String := "SHROUD_BOOT_KS"

/-- `NFT_TABLE`. -/
def nftTable : String := "shroud_killswitch"

/-- `is_our_chain`. -/
def isOurChain (chain : String) : Bool :=
  chain == ksChain || chain == bootChain

/-- A validator passes, or gives the reason for `deny`. -/
abbrev Check := Except String Unit

/-- Pass on a condition, else deny. -/
def require (condition : Bool) (reason : String) : Check :=
  if condition then .ok () else .error reason

/-- The jumps that both tools may add to `OUTPUT` and remove from it. -/
def jumpBodies : List String :=
  [ "-j " ++ ksChain, "-j " ++ bootChain ]

/-- The further rules that `ip6tables` keeps in `OUTPUT`. -/
def ipv6Bodies : List String :=
  [ "-o lo -j ACCEPT",
    "-j DROP",
    "-m conntrack --ctstate ESTABLISHED,RELATED -j ACCEPT",
    "-m state --state ESTABLISHED,RELATED -j ACCEPT",
    "-o tun+ -j ACCEPT",
    "-d fe80::/10 -j ACCEPT" ]

/-- The rule bodies that `validate_output_body` lists for a tool. -/
def outputBodies : Tool → List String
  | .iptables => jumpBodies
  | .ip6tables => jumpBodies ++ ipv6Bodies

/-- `"$*"`. -/
def joined (args : List String) : String :=
  " ".intercalate args

/-- `validate_output_body`. -/
def validateOutputBody (tool : Tool) (args : List String) : Check :=
  require (decide (joined args ∈ outputBodies tool))
    ("OUTPUT rule body not in allowlist: " ++ joined args)

def isPosition (text : String) : Bool :=
  !text.toList.isEmpty && text.toList.all Char.isDigit

/-- The optional rule number behind `-I OUTPUT`. -/
def shiftPosition : List String → List String
  | [] => []
  | first :: rest => if isPosition first then rest else first :: rest

/-- The operations on one whole chain: `-N`, `-F` and `-X`. -/
def validateChainOperation (operation : String) (args : List String) : Check :=
  match args with
  | [chain] =>
    require (isOurChain chain) (operation ++ " only on shroud chains")
  | _ => .error (operation ++ " takes exactly one chain")

/-- `-A`: whatever follows the chain is not looked at. -/
def validateAppend (args : List String) : Check :=
  require (args.head?.any isOurChain) "-A only into shroud chains"

/-- `-C`. -/
def validateCheck (args : List String) : Check :=
  match args with
  | [output, jump, chain] =>
    require (output == "OUTPUT" && jump == "-j" && isOurChain chain)
      "-C only checks OUTPUT jump to a shroud chain"
  | _ => .error "-C only checks OUTPUT jump to a shroud chain"

/-- `-I`. -/
def validateInsert (tool : Tool) (args : List String) : Check :=
  match args with
  | "OUTPUT" :: body => validateOutputBody tool (shiftPosition body)
  | _ => .error "-I only into OUTPUT"

/-- `-D`. -/
def validateDelete (tool : Tool) (args : List String) : Check :=
  match args with
  | "OUTPUT" :: body => validateOutputBody tool body
  | _ => .error "-D only from OUTPUT"

/-- The operations that are passed on without a further look. -/
def freeOperations : List String :=
  ["--version", "-L", "-S"]

/-- The operations on one whole chain. -/
def chainOperations : List String :=
  ["-N", "-F", "-X"]

/-- `validate_xtables` behind the table selector. -/
def validateOperation (tool : Tool) (args : List String) : Check :=
  let operation := args.head?.getD ""
  if operation ∈ freeOperations then .ok ()
  else if operation ∈ chainOperations then
    validateChainOperation operation args.tail
  else if operation = "-A" then validateAppend args.tail
  else if operation = "-C" then validateCheck args.tail
  else if operation = "-I" then validateInsert tool args.tail
  else if operation = "-D" then validateDelete tool args.tail
  else .error ("operation not allowed: " ++ operation)

/-- `validate_xtables`. -/
def validateXtables (tool : Tool) (args : List String) : Check :=
  match args with
  | "-t" :: "filter" :: rest => validateOperation tool rest
  | "-t" :: _ => .error "table must be filter"
  | _ => validateOperation tool args

/-- `[[:space:]]`, newlines apart: the expression is matched within lines. -/
def isSpace (c : Char) : Bool :=
  c == ' ' || c == '\t' || c.toNat == 11 || c.toNat == 12 || c.toNat == 13

/-- `[A-Za-z0-9_]`. -/
def isFamilyChar (c : Char) : Bool :=
  c.isAlphanum || c == '_'

/-- The same class with dot, slash and hyphen. -/
def isNameChar (c : Char) : Bool :=
  isFamilyChar c || c == '.' || c == '/' || c == '-'

/-- One or more characters of a class, as many as there are. -/
def run? (inClass : Char → Bool) (text : List Char) :
    Option (List Char × List Char) :=
  match text.span inClass with
  | ([], _) => none
  | (front, rest) => some (front, rest)

/-- A match of the expression: `table`, a family and a name, with gaps. -/
structure TableReference where
  firstGap : List Char
  family : List Char
  secondGap : List Char
  name : List Char
  deriving Repr, DecidableEq

namespace TableReference

def text (reference : TableReference) : List Char :=
  "table".toList ++ reference.firstGap ++ reference.family ++ reference.secondGap ++ reference.name

/--
The longest match that starts here.  Neighbouring classes of the expression
share no character, so every part is as long as it can be.
-/
def match? (text : List Char) : Option TableReference := do
  let rest ← Text.strip? "table".toList text
  let (firstGap, rest) ← run? isSpace rest
  let (family, rest) ← run? isFamilyChar rest
  let (secondGap, rest) ← run? isSpace rest
  let (name, _) ← run? isNameChar rest
  pure ⟨firstGap, family, secondGap, name⟩

/-- `^table[[:space:]]+inet[[:space:]]+shroud_killswitch$`. -/
def isOurs (reference : TableReference) : Bool :=
  reference.family == "inet".toList && reference.name == nftTable.toList

end TableReference

/--
`grep -o` on one line: the leftmost match, and the search goes on behind it.
The first argument counts the characters of a match still to be passed over.
-/
def tableReferences : Nat → List Char → List TableReference
  | _, [] => []
  | skip + 1, _ :: rest => tableReferences skip rest
  | 0, c :: rest =>
    match TableReference.match? (c :: rest) with
    | none => tableReferences 0 rest
    | some reference =>
      reference :: tableReferences (reference.text.length - 1) rest

/-- The references of a script that are not to Shroud's own table. -/
def foreignReferences (script : List Char) : List TableReference :=
  ((Text.splitNewlines script).flatMap (tableReferences 0)).filter (!·.isOurs)

/-- `$(cat)`: newlines at the end are dropped. -/
def captured (stdin : List Char) : List Char :=
  (stdin.reverse.dropWhile (· == '\n')).reverse

/-- The checks of `validate_nft_stdin`. -/
def validateNftStdin (stdin : List Char) : Check :=
  let script := captured stdin
  if script = [] then .error "empty nft ruleset on stdin"
  else if Text.contains "flush ruleset".toList script then
    .error "nft ruleset must not flush ruleset"
  else if Text.contains "include".toList script then
    .error "nft ruleset must not include files"
  else
    require (foreignReferences script).isEmpty
      ("nft ruleset references foreign table: " ++
        "\n".intercalate
          ((foreignReferences script).map fun reference =>
            String.ofList reference.text))

/-- `nft list`. -/
def validateNftList (args : List String) : Check :=
  require
    (args.tail == ["tables"] || (args.tail.take 3 == ["table", "inet", nftTable]))
    ("nft list not allowed: " ++ joined args)

/-- `nft delete` and `nft flush`. -/
def validateNftRemoval (args : List String) : Check :=
  require (args.tail == ["table", "inet", nftTable])
    ("nft " ++ args.head?.getD "" ++ " only on inet " ++ nftTable)

/-- `nft add`: the kind of object and what follows the table are free. -/
def validateNftAdd (args : List String) : Check :=
  require ((args.drop 2).take 2 == ["inet", nftTable]) ("nft add only on inet " ++ nftTable)

/-- `validate_nft`. -/
def validateNft (args : List String) (stdin : List Char) : Check :=
  let operation := args.head?.getD ""
  if operation = "--version" then .ok ()
  else if operation = "list" then validateNftList args
  else if operation = "delete" ∨ operation = "flush" then
    validateNftRemoval args
  else if operation = "add" then validateNftAdd args
  else if operation = "-f" then
    if args = ["-f", "-"] then validateNftStdin stdin
    else .error "nft -f only reads stdin (-)"
  else .error ("nft op not allowed: " ++ operation)

def validate (tool : FwTool) (args : List String) (stdin : List Char) :
    Check :=
  match tool with
  | .xtables tool => validateXtables tool args
  | .nft => validateNft args stdin

/-- The wrapper does not deny a call. -/
def admits (tool : FwTool) (args : List String) (stdin : List Char) : Bool :=
  (validate tool args stdin).isOk

end Shroud.FwWrapper
