import Mathlib
import SupplyDrop.Host.Types

namespace SupplyDrop.Host
open Library Store

def helpQuickAnon : String :=
  "REGISTER <user>  create an account\nLOGIN <user>     log in to your account"

def helpQuickAnonRadio : String :=
  "REGISTER <user> <password>\nLOGIN <user> <password>\n(omit password to be prompted)"

def helpQuickLoggedIn : String :=
  "K  list rooms\nC  change room\nN  new messages\nE  enter message\nG  next unread\n" ++
  "M  go to Mail\nW  who's online\nQ  log out\nH all - help topics"

def helpOverview : String :=
  "H M — Mail\nH R — Reading\nH P — Posting\nH U — Users\nH N — Navigation\nH A — Account"

def helpReading : String :=
  "Reading:\nN    read new messages\nF    forward-read (oldest first)\n" ++
  "R    reverse-read (newest first)\nS    scan message headers\n.FF  fast-forward past unread"

def helpReadingMode : String :=
  "Reading mode:\nF  next message (forward)\nR  previous message (back)\n" ++
  "E  reply to this message\nD  delete message\nH  this help\nX  exit reading"

def helpPosting : String :=
  "Posting:\nD <#>  delete\nE      enter message (prompts)\n" ++
  "E msg  draft a post (. sends, C cancels)\nE @user msg  draft a DM inline"

def helpNavigation : String :=
  "Navigation:\nC    change room\nG    unread here, else next room\nK    list known rooms\n" ++
  "M    go to Mail"

def helpMail : String :=
  "Mail (private messages):\nM    go to Mail\nE    write (prompts)\n" ++
  "E @user msg  send inline\nN    read new\nF/R  older/newer\nS    scan\nD <#> delete"

def helpAccount : String :=
  "Account:\nB      block / unblock a user\nPASSWD  change your password\n" ++
  "PROFILE edit your display name\nQ      log out\nW      who's online\nH U — Users"

def helpAide : String :=
  "Aide:\nPENDING  pending users\nV <u>   validate user\nBAN <u>  ban a user\n" ++
  "TIMEOUT <u> <d> suspend\n.ER     edit current room\nH U — Users"

def helpUsers : String :=
  "Users:\nU         list active\nU banned  list banned\nU all     list all\n" ++
  "S <q>     search\nWHOIS <u> details"

def helpSysop : String :=
  "Sysop:\n.AIDE/.SYSOP/.USER <u>\n.C .DR .DU .PW rooms/users\nUNBAN <u> lift a ban\n" ++
  "OPENACCESS skip verify\nCLOSEACCESS require verify\nGUESTROOM <name>|OFF"

/-- Who a help topic is there for. -/
inductive Audience where
  | everyone
  | loggedIn
  | aide
  | sysop
deriving DecidableEq

def Audience.admits (audience : Audience) (level : Option PermissionLevel) : Bool :=
  match audience with
  | everyone => true
  | loggedIn => level.isSome
  | aide => level.any (.aide ≤ ·)
  | sysop => level.any (.sysop ≤ ·)

/-- The first entry for a name that is there for `level`. -/
def findTopic (topics : List (List String × Audience × String)) (name : String)
    (level : Option PermissionLevel) : Option String :=
  (topics.find? fun entry => entry.1.contains name && entry.2.1.admits level).map (·.2.2)

def helpTopics : List (List String × Audience × String) :=
  [(["m", "mail"], .loggedIn, helpMail),
    (["r", "read", "reading"], .loggedIn, helpReading),
    (["p", "post", "posting"], .loggedIn, helpPosting),
    (["u", "users"], .loggedIn, helpUsers),
    (["n", "nav", "navigation"], .loggedIn, helpNavigation),
    (["a", "acct", "account"], .loggedIn, helpAccount),
    (["aide"], .aide, helpAide),
    (["sysop"], .sysop, helpSysop)]

def helpCommands : List (List String × Audience × String) :=
  [(["h", "help", "?"], .loggedIn,
      "H — show this help\n" ++
      "H M/R/P/U/N/A for topics (mail, reading, posting, users, nav, account)\n" ++
      "H <cmd> for detail on one command (eg. H N)"),
    (["h", "help", "?"], .everyone, "H — show this help."),
    (["q"], .loggedIn, "Q — log out"),
    (["q"], .everyone, "Q — quit"),
    (["register"], .everyone,
      "REGISTER <user> — create an account (you'll be prompted for a password).\n" ++
      "On a radio you can also do it in one message: REGISTER <user> <password>."),
    (["login"], .everyone,
      "LOGIN <user> — log in (you'll be prompted for a password).\n" ++
      "On a radio, one message works too: LOGIN <user> <password>."),
    (["cancel"], .everyone, "CANCEL — cancel the current workflow"),
    (["n"], .loggedIn, "N — read new messages since last visit"),
    (["f"], .loggedIn,
      "F — forward-read (oldest first)\nF <id> to start from a specific message"),
    (["r"], .loggedIn, "R — reverse-read (newest first)"),
    (["s"], .loggedIn, "S — scan message headers in this room"),
    ([".ff"], .loggedIn,
      ".FF — fast-forward past unread\nResets your last-read pointer to the latest message."),
    (["e"], .loggedIn,
      "E — enter a message\nE <text> to post without a prompt\nIn Mail: E @user message"),
    (["d"], .loggedIn,
      "D <id> — delete a message\nAides and sysops can delete any message."),
    (["g"], .loggedIn, "G — read unread here, else go to the next room with unread"),
    (["c"], .loggedIn, "C <name> — change room by name or number"),
    (["k"], .loggedIn, "K — list known rooms"),
    (["m"], .loggedIn,
      "M — go to Mail (private messages)\nIn Mail: E to write, N to read new,\n" ++
      "F/R older/newer, S scan, D <#> delete.\nH mail for full mail help."),
    (["w"], .loggedIn, "W — who's online"),
    (["b"], .loggedIn,
      "B <user> — block / unblock user\n" ++
      "Prefix + to force-block, - to force-unblock, or omit to toggle.\n" ++
      "Hides their messages from you."),
    (["profile"], .loggedIn, "PROFILE — edit your display name"),
    (["passwd"], .loggedIn,
      "PASSWD — change your password\n" ++
      "You'll be asked for your current password, then the new one twice."),
    (["stop"], .loggedIn, "STOP — stop pending messages"),
    (["v"], .aide,
      "V — validate pending users\nEnters the user validation workflow."),
    (["pending"], .aide, "PENDING — list users awaiting validation"),
    ([".er"], .aide,
      ".ER — edit current room\n" ++
      "Edit name, description, read-only flag, or min permission level."),
    ([".eu"], .aide,
      ".EU <user> — edit a user's profile or permissions\nAides cannot promote to Sysop."),
    (["ban"], .aide, "BAN <user> — ban a user account"),
    (["timeout"], .aide,
      "TIMEOUT <user> <days> — suspend a user account for 1-5 days\n" ++
      "Logs them out immediately and rejects login with the days remaining shown; " ++
      "reactivates automatically once the timeout elapses. UNBAN lifts it early."),
    (["u", "users"], .loggedIn,
      "U — list active user accounts\nU banned — list banned accounts\n" ++
      "U all — list all accounts (sysop)"),
    (["s", "search"], .loggedIn, "S <query> — find users by username (substring match)"),
    (["whois"], .loggedIn,
      "WHOIS <user> — show account details\n" ++
      "Includes level, status, join date, last login, and active sessions."),
    (["unban"], .sysop, "UNBAN <user> — lift a ban"),
    ([".aide", ".sysop", ".user"], .sysop,
      ".AIDE/.SYSOP/.USER <user> — set a user's permission level\n" ++
      "Promote a validated user to Aide or Sysop, or demote to User.\n" ++
      "Validate pending users with V first."),
    ([".c"], .sysop,
      ".C — create a new room\nEnters the room creation workflow."),
    ([".dr"], .sysop, ".DR <name> — delete a room"),
    ([".du"], .sysop,
      ".DU <user> — soft-delete a user account\n" ++
      "Sets status to deleted and ends active sessions."),
    ([".pw"], .sysop,
      ".PW <user> — reset a user to a single-use temp password\n" ++
      "Returns a temp password to share; they must change it at next login."),
    (["openaccess"], .sysop,
      "OPENACCESS — disable verification requirement (SHTF mode)\n" ++
      "All registrations immediately receive User-level access.\n" ++
      "Takes effect immediately and persists to config.toml."),
    (["closeaccess"], .sysop,
      "CLOSEACCESS — restore verification requirement\n" ++
      "New accounts must be validated by an aide or sysop.\n" ++
      "Takes effect immediately and persists to config.toml."),
    (["guestroom"], .sysop,
      "GUESTROOM <name> — set guest room (created if needed)\n" ++
      "Unverified users are placed here and cannot leave.\nGUESTROOM OFF to disable.\n" ++
      "Takes effect immediately and persists to config.toml.")]

def helpForCommand (cmd : String) (level : Option PermissionLevel) : String :=
  (findTopic helpCommands cmd level).getD
    (s!"No help for '{cmd}'.\n" ++
      "H for commands, H reading/posting/navigation/account for topics.")

def helpOverviewFor (level : Option PermissionLevel) : String :=
  helpOverview ++ (if Audience.aide.admits level then "\nH AIDE — Moderation" else "") ++
    (if Audience.sysop.admits level then "\nH SYSOP — Admin" else "")

def helpText (topic : Option String) (level : Option PermissionLevel) (onRadio : Bool) : String :=
  match topic with
  | none =>
      if level.isSome then helpQuickLoggedIn
      else if onRadio then helpQuickAnonRadio
      else helpQuickAnon
  | some t =>
      let name := Text.toAsciiLowercase t
      if name = "all" && level.isSome then helpOverviewFor level
      else (findTopic helpTopics name level).getD (helpForCommand name level)

end SupplyDrop.Host
