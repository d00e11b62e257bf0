import DeviceConsole.Log.Directive

/-!
# Log filters

A filter is a list of directives separated by commas.  Of the directives about a record the
most specific one decides, and a record that no directive is about is not kept.

Main results:

- Definition {lit}`keeps`: the records that a filter keeps.
- Definition {lit}`parse`: the filter that a text stands for.
-/

namespace DeviceConsole

/-- A log filter: its directives in the order of the text. -/
structure LogFilter where
  directives : List Directive
deriving DecidableEq, Repr

namespace LogFilter

/-- The directives in effect: without any, one that keeps errors. -/
def effective (filter : LogFilter) : List Directive :=
  if filter.directives.isEmpty then [.overall .errors] else filter.directives

/-- The directive that decides about a record: the most specific one, and the last of these. -/
def decisive? (filter : LogFilter) (record : LogRecord) : Option Directive :=
  (filter.effective.filter (·.isAbout record)).foldl
    (fun best next =>
      match best with
      | none => some next
      | some directive => if next.atLeastAsSpecific directive then some next else some directive)
    none

/-- Whether the filter keeps a record. -/
def keeps (filter : LogFilter) (record : LogRecord) : Bool :=
  (filter.decisive? record).any (·.bound.admits record.level)

/-- The filter that a text stands for.  Empty pieces between commas count for nothing. -/
def parse (text : String) : Except FilterFault LogFilter := do
  let written := (pieces ',' text.toList).filter (!·.isEmpty)
  return ⟨← written.mapM Directive.parse⟩

end LogFilter

end DeviceConsole
