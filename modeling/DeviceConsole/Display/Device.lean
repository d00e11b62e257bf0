import DeviceConsole.Registry

/-!
# Showing devices

A device is shown field by field, one field a line.  Its objects stand on the last line:
an object with a declared version or without instances is named itself, and every instance
is named.

Main results:

- Theorem {lit}`objectPaths_ne_nil`: every announced object leaves a trace on the line.
- Theorem {lit}`listing_of_isEmpty`: an empty registry is said to be empty.
-/

namespace DeviceConsole

namespace ObjectEntry

/-- The object itself, when it has a version to show or no instance that names it. -/
def heading? (entry : ObjectEntry) : Option String :=
  match entry.declaredVersion? with
  | some (major, minor) =>
      some ("/" ++ toString entry.id.toNat ++ " (" ++ toString major.toNat ++ "." ++
        toString minor.toNat ++ ")")
  | none => if entry.instances.isEmpty then some ("/" ++ toString entry.id.toNat) else none

/-- The paths that stand for the object: itself when it needs to be named, and each of its
instances as it was announced. -/
def objectPaths (entry : ObjectEntry) : List String :=
  entry.heading?.toList ++
    entry.instances.map fun inst => "/" ++ toString entry.id.toNat ++ "/" ++ toString inst.toNat

/-- Every announced object leaves a trace on the line. -/
theorem objectPaths_ne_nil (entry : ObjectEntry) : entry.objectPaths ≠ [] := by
  unfold objectPaths heading?
  cases entry.declaredVersion? with
  | some version => simp
  | none => cases entry.instances <;> simp

end ObjectEntry

namespace Device

/-- A line with a quoted field. -/
def quotedField (label value : String) : String :=
  "\t" ++ label ++ ": \"" ++ value ++ "\"\n"

/-- A line with a quoted field that need not be there. -/
def optionalField (label : String) (value : Option String) : String :=
  match value with
  | some value => quotedField label value
  | none => ""

/-- The device as it is shown. -/
def text (device : Device) : String :=
  "Client #" ++ toString device.id.toNat ++ ":\n" ++
    quotedField "name" device.name ++
    quotedField "version" device.version.text ++
    quotedField "binding" device.binding.text ++
    optionalField "msisdn" device.msisdn ++
    optionalField "alternative path" device.alternatePath ++
    "\tlifetime: " ++ toString device.lifetime.toNat ++ " sec\n" ++
    "\tobjects: " ++ ", ".intercalate (device.objects.flatMap ObjectEntry.objectPaths) ++ "\n"

end Device

namespace Registry

/-- All registered devices as they are shown, each with an empty line after it. -/
def listing (registry : Registry) : String :=
  if registry.isEmpty then "No client.\n"
  else String.join (registry.devices.map fun device => device.text ++ "\n")

/-- An empty registry is said to be empty. -/
theorem listing_of_isEmpty {registry : Registry} (h : registry.isEmpty) :
    registry.listing = "No client.\n" := by
  simp [listing, h]

end Registry

end DeviceConsole
