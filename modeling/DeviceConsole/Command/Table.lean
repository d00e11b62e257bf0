import DeviceConsole.Request

/-!
# The command table

Every command has a keyword, a line for the overview, perhaps a longer description, the
form of its arguments, and a parameter that tells apart the commands of one form.

Main results:

- Theorem {lit}`keywords_nodup`: no two entries share a keyword.
- Theorem {lit}`mem_of_find?`: look-up finds an entry of the table with the keyword.
-/

namespace DeviceConsole

/-- The form of a command's arguments and what becomes of them. -/
inductive CommandForm where
  /-- No arguments; show the registered devices. -/
  | list
  /-- A device and a path. -/
  | onPath
  /-- A device, a path and a value to write. -/
  | write
  /-- A device, a path and two periods. -/
  | periods
  /-- A device, a path, two thresholds and perhaps a step. -/
  | thresholds
  /-- A device and a path whose attributes are cleared. -/
  | clear
  /-- A device, a path and perhaps an argument to execute it with. -/
  | execute
  /-- A device, a path and the value of a new instance. -/
  | create
  /-- No arguments; stop the console. -/
  | quit
deriving DecidableEq, Repr

/-- What tells the commands of one form apart. -/
inductive CommandParameter where
  | none
  | path (kind : PathRequest)
  | write (isPartial : Bool)
deriving DecidableEq, Repr

/-- The parameter as it is identified. -/
def CommandParameter.identifier : CommandParameter → String
  | none => "None"
  | path kind => "Path(" ++ kind.identifier ++ ")"
  | write isPartial => "Write \x7b partial: " ++ toString isPartial ++ " \x7d"

/-- One command. -/
structure CommandEntry where
  keyword : String
  summary : String
  details : Option String
  form : CommandForm
  parameter : CommandParameter
deriving DecidableEq, Repr

namespace CommandEntry

/-- The line that names the device argument in a description. -/
def deviceLine : String :=
  "   CLIENT#: client number as returned by command 'list'\n"

/-- The line that ends a description. -/
def lastLine : String :=
  "Result will be displayed asynchronously."

/-- A description: the usage line, the device argument, further lines and the last line. -/
def describe (usage : String) (lines : List String) : Option String :=
  some (" " ++ usage ++ "\n" ++ deviceLine ++
    String.join (lines.map fun line => "   " ++ line ++ "\n") ++ lastLine)

/-- The commands, in the order of the overview. -/
def all : List CommandEntry :=
  [{ keyword := "list"
     summary := "List registered clients."
     details := none
     form := .list
     parameter := .none },
   { keyword := "read"
     summary := "Read from a client."
     details := describe "read CLIENT# URI"
       ["URI: uri to read such as /3, /3/0/2, /1024/11, /1024/0/1"]
     form := .onPath
     parameter := .path .read },
   { keyword := "disc"
     summary := "Discover resources of a client."
     details := describe "disc CLIENT# URI"
       ["URI: uri to discover such as /3, /3/0/2, /1024/11, /1024/0/1"]
     form := .onPath
     parameter := .path .discover },
   { keyword := "write"
     summary := "Write to a client."
     details := describe "write CLIENT# URI DATA"
       ["URI: uri to write to such as /3, /3/0/2, /1024/11, /1024/0/1",
        "DATA: data to write. Text or a supported structured format."]
     form := .write
     parameter := .write false },
   { keyword := "update"
     summary := "Write to a client with partial update."
     details := describe "update CLIENT# URI DATA"
       ["URI: uri to write to such as /3, /3/0/2, /1024/11, /1024/0/1",
        "DATA: data to write. Must be a supported structured format."]
     form := .write
     parameter := .write true },
   { keyword := "time"
     summary := "Write time-related attributes to a client."
     details := describe "time CLIENT# URI PMIN PMAX"
       ["URI: uri to write attributes to such as /3, /3/0/2, /1024/11, /1024/0/1",
        "PMIN: Minimum period",
        "PMAX: Maximum period"]
     form := .periods
     parameter := .none },
   { keyword := "attr"
     summary := "Write value-related attributes to a client."
     details := describe "attr CLIENT# URI LT GT [STEP]"
       ["URI: uri to write attributes to such as /3/0/2, /1024/0/1",
        "LT: \"Less than\" value",
        "GT: \"Greater than\" value",
        "STEP: \"Step\" value"]
     form := .thresholds
     parameter := .none },
   { keyword := "clear"
     summary := "Clear attributes of a client."
     details := describe "clear CLIENT# URI"
       ["URI: uri to clear attributes of such as /3, /3/0/2, /1024/11, /1024/0/1"]
     form := .clear
     parameter := .none },
   { keyword := "exec"
     summary := "Execute a client resource."
     details := describe "exec CLIENT# URI [DATA]"
       ["URI: uri of the resource to execute such as /3/0/2",
        "DATA: optional argument passed to the resource"]
     form := .execute
     parameter := .none },
   { keyword := "del"
     summary := "Delete a client Object instance."
     details := describe "del CLIENT# URI"
       ["URI: uri of the instance to delete such as /1024/11"]
     form := .onPath
     parameter := .path .delete },
   { keyword := "create"
     summary := "Create an Object instance."
     details := describe "create CLIENT# URI DATA"
       ["URI: uri to which create the Object Instance such as /1024, /1024/45",
        "DATA: data to initialize the new Object Instance (an integer for object 31024 or " ++
          "any supported structured format)"]
     form := .create
     parameter := .none },
   { keyword := "observe"
     summary := "Observe from a client."
     details := describe "observe CLIENT# URI"
       ["URI: uri to observe such as /3, /3/0/2, /1024/11"]
     form := .onPath
     parameter := .path .observe },
   { keyword := "cancel"
     summary := "Cancel an observe."
     details := describe "cancel CLIENT# URI"
       ["URI: uri on which to cancel an observe such as /3, /3/0/2, /1024/11"]
     form := .onPath
     parameter := .path .cancelObserve },
   { keyword := "q"
     summary := "Quit the server."
     details := none
     form := .quit
     parameter := .none }]

/-- The entry with a keyword. -/
def find? (keyword : String) : Option CommandEntry :=
  all.find? (·.keyword == keyword)

/-- The text that explains the command. -/
def explanation (entry : CommandEntry) : String :=
  entry.details.getD entry.summary

/-- No two entries share a keyword. -/
theorem keywords_nodup : (all.map keyword).Nodup := by
  decide +kernel

/-- A found entry is in the table and has the keyword. -/
theorem mem_of_find? {keyword : String} {entry : CommandEntry} (h : find? keyword = some entry) :
    entry ∈ all ∧ entry.keyword = keyword :=
  ⟨List.mem_of_find?_eq_some h, by simpa using List.find?_some h⟩

/-! ## Overview -/

/-- A keyword in the first ten columns of a line, and text behind it. -/
def overviewLine (keyword summary : String) : String :=
  keyword ++ String.ofList (List.replicate (10 - keyword.length) ' ') ++ summary ++ "\n"

/-- The line of the overview that explains the overview. -/
def helpLine : String :=
  overviewLine "help" "Type 'help [COMMAND]' for more details on a command."

/-- The overview of all commands. -/
def overview : String :=
  helpLine ++ String.join (all.map fun entry => overviewLine entry.keyword entry.summary)

end CommandEntry

end DeviceConsole
