import ServiceBoot.Text.Numeral
import ServiceBoot.Text.Percent

/-!
# Database URLs

The address of a database with the account to use, and its text, in which the password can be
hidden. The host is written as it is; account, database and options are percent encoded.
-/

namespace ServiceBoot

structure DatabaseUrl where
  driver : String
  username : Option String := none
  password : Option String := none
  host : Option String := none
  port : Option Int := none
  database : Option String := none
  options : List (String × String) := []
  deriving DecidableEq, Repr

/-- The text, unless it is empty. -/
def nonempty? (text : String) : Option String := if text = "" then none else some text

namespace DatabaseUrl

def keptInAccount (c : Char) : Bool := Text.Percent.isUnreserved c || c == ' ' || c == '+'

def keptInDatabase (c : Char) : Bool := keptInAccount c || c == '/'

/-- The text in place of a hidden password. -/
def hiddenPassword : String := "***"

/-- A password is shown only beside the user that it belongs to. -/
def account (url : DatabaseUrl) (showsPassword : Bool) : String :=
  match url.username with
  | none => ""
  | some user =>
    let password := match url.password with
      | none => ""
      | some password =>
        ":" ++ if showsPassword then Text.Percent.encode keptInAccount password else hiddenPassword
    Text.Percent.encode keptInAccount user ++ password ++ "@"

def hostText (host : String) : String :=
  if host.toList.contains ':' then "[" ++ host ++ "]" else host

def optionsText (options : List (String × String)) : String :=
  if options.isEmpty then ""
  else "?" ++ String.intercalate "&" (options.map fun option ↦
    Text.Percent.encodeQuery option.1 ++ "=" ++ Text.Percent.encodeQuery option.2)

def text (url : DatabaseUrl) (showsPassword : Bool) : String :=
  url.driver ++ "://" ++ url.account showsPassword ++
    (url.host.map hostText).getD "" ++
    (url.port.map fun port ↦ ":" ++ Text.Numeral.ofInt port).getD "" ++
    (url.database.map fun name ↦ "/" ++ Text.Percent.encode keptInDatabase name).getD "" ++
    optionsText url.options

end DatabaseUrl

end ServiceBoot
