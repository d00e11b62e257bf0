import DeviceConsole.Proofs.Command.Replies
import DeviceConsole.Proofs.Command.Writing
import DeviceConsole.Proofs.Registry.History
import DeviceConsole.Proofs.Text.Numerals
import DeviceConsole.Proofs.Text.Runs

/-!
# The list of devices

The list has one record for each registered device, in the order of the handles.  The last line
of a record names the objects of the device and their instances, and it can be told from the line
which ones: no two names look alike, and none runs into the next.

Main results:

- Definition {lit}`Mention`: what stands between two commas of the line.
- Theorem {lit}`Mention.line_injective`: the line tells what it names.
- Theorem {lit}`names_mentions`: what the line names of an object.
- Theorem {lit}`list_showsRegistered`: the list shows the devices that stand registered.
-/

namespace DeviceConsole

variable {η ω : Type}

/-! ## Names on the line of objects -/

/-- What the line of objects names. -/
inductive Mention where
  /-- An object with its version. -/
  | versioned (object : UInt16) (major minor : UInt8)
  /-- An object. -/
  | plain (object : UInt16)
  /-- An instance of an object. -/
  | instanceOf (object number : UInt16)
deriving DecidableEq

namespace Mention

/-- The object that is named, or whose instance is. -/
def objectId : Mention → UInt16
  | versioned object _ _ | plain object | instanceOf object _ => object

/-- The instance that is named, with its object. -/
def instance? : Mention → Option (UInt16 × UInt16)
  | instanceOf object number => some (object, number)
  | _ => none

/-- The name as it is written. -/
def text : Mention → String
  | versioned object major minor =>
      "/" ++ toString object.toNat ++ " (" ++ toString major.toNat ++ "." ++
        toString minor.toNat ++ ")"
  | plain object => "/" ++ toString object.toNat
  | instanceOf object number => "/" ++ toString object.toNat ++ "/" ++ toString number.toNat

/-- What is written behind the number of the object. -/
def tail : Mention → List Char
  | versioned _ major minor =>
      ' ' :: '(' :: (Decimal.digits major.toNat ++ '.' :: (Decimal.digits minor.toNat ++ [')']))
  | plain _ => []
  | instanceOf _ number => '/' :: Decimal.digits number.toNat

theorem toList_text (mention : Mention) :
    mention.text.toList = '/' :: (Decimal.digits mention.objectId.toNat ++ mention.tail) := by
  cases mention <;>
    simp [text, objectId, tail, Decimal.digits]

end Mention

/-- Numerals are told apart when nothing behind them begins with a digit. -/
theorem digits_append_inj {m n : Nat} {left right : List Char}
    (hleft : Stops Char.isDigit left) (hright : Stops Char.isDigit right)
    (h : Decimal.digits m ++ left = Decimal.digits n ++ right) : m = n ∧ left = right := by
  have hnumeral (n : Nat) : (Decimal.digits n).all Char.isDigit :=
    List.all_eq_true.mpr (isNumeral_digits n).digits
  have hdigits : Decimal.digits m = Decimal.digits n := by
    rw [← takeWhile_append_of_stops (hnumeral m) hleft, h,
      takeWhile_append_of_stops (hnumeral n) hright]
  constructor
  · rw [← value_digits m, hdigits, value_digits]
  · rw [hdigits] at h
    exact List.append_cancel_left h

namespace Mention

theorem stops_tail (mention : Mention) : Stops Char.isDigit mention.tail := by
  cases mention <;> simp [tail]

/-- What stands behind the number of the object tells the rest of the name. -/
theorem eq_of_tail {left right : Mention} (hobject : left.objectId = right.objectId)
    (htail : left.tail = right.tail) : left = right := by
  cases left with
  | versioned object major minor =>
      cases right with
      | versioned other otherMajor otherMinor =>
          obtain ⟨hmajor, hrest⟩ := digits_append_inj (by simp) (by simp)
            (List.cons.inj (List.cons.inj htail).2).2
          obtain ⟨hminor, -⟩ := digits_append_inj (by simp) (by simp)
            (List.cons.inj hrest).2
          obtain rfl : object = other := hobject
          rw [UInt8.toNat.inj hmajor, UInt8.toNat.inj hminor]
      | _ => simp [tail] at htail
  | plain object =>
      cases right with
      | plain other => exact congrArg plain hobject
      | _ => simp [tail] at htail
  | instanceOf object number =>
      cases right with
      | instanceOf other otherNumber =>
          obtain ⟨hnumber, -⟩ := digits_append_inj (by simp) (by simp)
            (congrArg (· ++ []) (List.cons.inj htail).2)
          obtain rfl : object = other := hobject
          rw [UInt16.toNat.inj hnumber]
      | _ => simp [tail] at htail

/-- No two names look alike. -/
theorem text_injective : Function.Injective text := by
  intro left right heq
  have hchars := congrArg String.toList heq
  rw [toList_text, toList_text] at hchars
  obtain ⟨hobject, htail⟩ := digits_append_inj left.stops_tail right.stops_tail
    (List.cons.inj hchars).2
  exact eq_of_tail (UInt16.toNat.inj hobject) htail

/-- No name has a comma. -/
theorem comma_notMem_text (mention : Mention) : ',' ∉ mention.text.toList := by
  have hdigits (n : Nat) : ',' ∉ Decimal.digits n := fun hmem =>
    absurd ((isNumeral_digits n).digits _ hmem) (by decide)
  rw [toList_text]
  cases mention <;> simp [tail, hdigits]

end Mention

/-! ## The line of objects -/

namespace Mention

/-- Names with a comma and a blank between them. -/
def line (mentions : List Mention) : String :=
  ", ".intercalate (mentions.map text)

/-- A blank behind each comma is one in front of each word but the first. -/
theorem intercalate_comma (first : List Char) (rest : List (List Char)) :
    [',', ' '].intercalate (first :: rest) = [','].intercalate (first :: rest.map (' ' :: ·)) := by
  induction rest generalizing first with
  | nil => simp
  | cons next rest ih =>
      rw [List.map_cons, List.intercalate_cons_cons, List.intercalate_cons_cons, ih]
      cases rest with
      | nil => simp
      | cons other rest => simp [List.intercalate_cons_cons]

/-- A line of names is taken apart at its commas. -/
theorem splitOn_line (first : Mention) (rest : List Mention) :
    (line (first :: rest)).toList.splitOn ',' =
      first.text.toList :: rest.map fun mention => ' ' :: mention.text.toList := by
  have hcomma : ", ".toList = [',', ' '] := rfl
  rw [line, String.toList_intercalate, hcomma, List.map_cons, List.map_cons, intercalate_comma,
    List.map_map, List.map_map]
  refine List.splitOn_intercalate ',' ?_ (List.cons_ne_nil _ _)
  intro word hmem
  rcases List.mem_cons.mp hmem with rfl | hmem
  · exact first.comma_notMem_text
  · obtain ⟨mention, -, rfl⟩ := List.mem_map.mp hmem
    simpa using mention.comma_notMem_text

/-- The line tells what it names. -/
theorem line_injective : Function.Injective line := by
  have hempty (first : Mention) (rest : List Mention) : line (first :: rest) ≠ line [] := by
    intro heq
    have hsplit := splitOn_line first rest
    rw [heq] at hsplit
    have hfirst : [] = first.text.toList := (List.cons.inj hsplit).1
    rw [toList_text] at hfirst
    exact nomatch hfirst
  intro left right heq
  cases left with
  | nil =>
      cases right with
      | nil => rfl
      | cons first rest => exact absurd heq.symm (hempty first rest)
  | cons first rest =>
      cases right with
      | nil => exact absurd heq (hempty first rest)
      | cons other others =>
          have hsplit := splitOn_line first rest
          rw [heq, splitOn_line] at hsplit
          obtain ⟨hfirst, hrest⟩ := List.cons.inj hsplit
          have hname : Function.Injective fun mention : Mention => ' ' :: mention.text.toList :=
            fun _ _ h => text_injective (String.toList_inj.mp (List.cons.inj h).2)
          rw [text_injective (String.toList_inj.mp hfirst), hname.list_map hrest]

end Mention

/-! ## What the line names -/

namespace ObjectEntry

/-- What the line names of an object: the object itself, if need be, and then its instances. -/
structure Names (entry : ObjectEntry) (mentions : List Mention) : Prop where
  /-- The object is named with its version exactly when it declares one other than 0.0. -/
  versioned : ∀ major minor, .versioned entry.id major minor ∈ mentions ↔
    entry.version = some (major, minor) ∧ (major ≠ 0 ∨ minor ≠ 0)
  /-- It is named without one exactly when it declares none and has no instances. -/
  plain : .plain entry.id ∈ mentions ↔
    (entry.version = none ∨ entry.version = some (0, 0)) ∧ entry.instances = []
  /-- The object is named once at most, in front, and every instance behind it in order, as often
  as it was announced. -/
  inOrder : ∃ heads, heads.length ≤ 1 ∧ (∀ head ∈ heads, head.instance? = none) ∧
    mentions = heads ++ entry.instances.map (.instanceOf entry.id)
  /-- Nothing else is named, and something is. -/
  own : ∀ mention ∈ mentions, mention.objectId = entry.id
  ne_nil : mentions ≠ []

/-- How the object itself is named, if it is. -/
def head? (entry : ObjectEntry) : Option Mention :=
  match entry.declaredVersion? with
  | some (major, minor) => some (.versioned entry.id major minor)
  | none => if entry.instances.isEmpty then some (.plain entry.id) else none

/-- The names of an object and of its instances. -/
def mentions (entry : ObjectEntry) : List Mention :=
  entry.head?.toList ++ entry.instances.map (.instanceOf entry.id)

theorem objectPaths_eq (entry : ObjectEntry) :
    entry.objectPaths = entry.mentions.map Mention.text := by
  have hhead : entry.heading? = entry.head?.map Mention.text := by
    unfold heading? head?
    cases entry.declaredVersion? with
    | some version => rfl
    | none => cases entry.instances <;> rfl
  rw [objectPaths, mentions, hhead, List.map_append, List.map_map]
  cases entry.head? <;> rfl

theorem head?_eq_versioned_iff {entry : ObjectEntry} {major minor : UInt8} :
    entry.head? = some (.versioned entry.id major minor) ↔
      entry.version = some (major, minor) ∧ (major ≠ 0 ∨ minor ≠ 0) := by
  have hdeclared : entry.declaredVersion? = some (major, minor) ↔
      entry.version = some (major, minor) ∧ (major ≠ 0 ∨ minor ≠ 0) := by
    rw [declaredVersion?, Option.filter_eq_some_iff]
    simp [imp_iff_not_or]
  rw [← hdeclared, head?]
  cases entry.declaredVersion? with
  | some version => simp [Prod.ext_iff]
  | none => cases entry.instances <;> simp

theorem head?_eq_plain_iff {entry : ObjectEntry} : entry.head? = some (.plain entry.id) ↔
    (entry.version = none ∨ entry.version = some (0, 0)) ∧ entry.instances = [] := by
  rw [← declaredVersion?_eq_none_iff, head?]
  cases entry.declaredVersion? with
  | some version => simp
  | none => cases entry.instances <;> simp

theorem objectId_of_head? {entry : ObjectEntry} {head : Mention} (h : entry.head? = some head) :
    head.objectId = entry.id ∧ head.instance? = none := by
  unfold head? at h
  split at h
  · obtain rfl := Option.some.inj h
    exact ⟨rfl, rfl⟩
  · split at h
    · obtain rfl := Option.some.inj h
      exact ⟨rfl, rfl⟩
    · exact nomatch h

/-- What the line names of an object. -/
theorem names_mentions (entry : ObjectEntry) : entry.Names entry.mentions where
  versioned major minor := by
    rw [mentions, List.mem_append, Option.mem_toList, head?_eq_versioned_iff]
    simp
  plain := by
    rw [mentions, List.mem_append, Option.mem_toList, head?_eq_plain_iff]
    simp
  inOrder := by
    refine ⟨entry.head?.toList, ?_, ?_, rfl⟩
    · cases entry.head? <;> simp
    · exact fun head hmem => (objectId_of_head? (Option.mem_toList.mp hmem)).2
  own := by
    intro mention hmem
    rcases List.mem_append.mp hmem with hhead | hinstance
    · exact (objectId_of_head? (Option.mem_toList.mp hhead)).1
    · obtain ⟨number, -, rfl⟩ := List.mem_map.mp hinstance
      rfl
  ne_nil := by
    intro hnone
    have hpaths := entry.objectPaths_eq
    rw [hnone] at hpaths
    exact entry.objectPaths_ne_nil hpaths

end ObjectEntry

/-! ## Records -/

namespace Device

/-- A line with a quoted field, without the newline that ends it. -/
def quotedLine (label value : String) : String :=
  "\t" ++ label ++ ": \"" ++ value ++ "\""

/-- The lines of a record in front of the line of objects: one for each field that is there. -/
def fieldLines (device : Device) : List String :=
  ["Client #" ++ toString device.id.toNat ++ ":", quotedLine "name" device.name,
    quotedLine "version" device.version.text, quotedLine "binding" device.binding.text] ++
  device.msisdn.toList.map (quotedLine "msisdn") ++
  device.alternatePath.toList.map (quotedLine "alternative path") ++
  ["\tlifetime: " ++ toString device.lifetime.toNat ++ " sec"]

/-- A text is the record of a device: its fields line by line, and a line that names its objects in
the order in which they were announced.  From that line it can be told what is named. -/
def IsRecord (device : Device) (record : String) : Prop :=
  ∃ groups : List (List Mention), List.Forall₂ ObjectEntry.Names device.objects groups ∧
    record = String.join ((device.fieldLines ++ ["\tobjects: " ++ Mention.line groups.flatten]).map
      (· ++ "\n")) ∧
    ∀ others, Mention.line others = Mention.line groups.flatten → others = groups.flatten

theorem quotedField_eq (label value : String) :
    quotedField label value = quotedLine label value ++ "\n" := by
  have hquote : ("\"\n" : String) = "\"" ++ "\n" := rfl
  rw [quotedField, quotedLine, hquote, ← String.append_assoc]

theorem optionalField_eq (label : String) (value : Option String) :
    optionalField label value =
      String.join ((value.toList.map (quotedLine label)).map (· ++ "\n")) := by
  cases value with
  | none => rfl
  | some value =>
      rw [optionalField, quotedField_eq, Option.toList_some, List.map_singleton, List.map_singleton,
        String.join_cons, String.join_nil, String.append_empty]

/-- A record is put together line by line. -/
theorem text_eq_join (device : Device) : device.text = String.join ((device.fieldLines ++
    ["\tobjects: " ++ ", ".intercalate (device.objects.flatMap ObjectEntry.objectPaths)]).map
      (· ++ "\n")) := by
  have hfirst : (":\n" : String) = ":" ++ "\n" := rfl
  have hlifetime : (" sec\n" : String) = " sec" ++ "\n" := rfl
  unfold text fieldLines
  simp only [hfirst, hlifetime, quotedField_eq, optionalField_eq, List.map_append,
    List.map_cons, List.map_nil, String.join_append, String.join_cons, String.join_nil,
    String.append_assoc, String.append_empty]

/-- The line of objects names what the objects come to. -/
theorem intercalate_objectPaths (objects : List ObjectEntry) :
    ", ".intercalate (objects.flatMap ObjectEntry.objectPaths) =
      Mention.line (objects.map ObjectEntry.mentions).flatten := by
  rw [Mention.line, List.map_flatten, List.map_map, List.flatMap_def]
  congr 3
  funext entry
  exact entry.objectPaths_eq

theorem isRecord_text (device : Device) : device.IsRecord device.text := by
  refine ⟨device.objects.map ObjectEntry.mentions, ?_, ?_, fun _ h => Mention.line_injective h⟩
  · rw [List.forall₂_map_right_iff, List.forall₂_same]
    exact fun entry _ => entry.names_mentions
  · rw [← intercalate_objectPaths, text_eq_join]

end Device

/-! ## The list -/

namespace Registry

/-- A text is the list after a history. -/
structure Lists (history : List Change) (text : String) : Prop where
  /-- Without devices the list says so. -/
  none : (∀ device, ¬ Stands history device) → text = "No client.\n"
  /-- Otherwise it has one record for each device, in the order of their handles, and an empty line
  behind each. -/
  some : (∃ device, Stands history device) → ∃ devices records,
    devices.Pairwise (fun former latter : Device => former.id < latter.id) ∧
      (∀ device, device ∈ devices ↔ Stands history device) ∧
      List.Forall₂ Device.IsRecord devices records ∧
      text = String.join (records.map (· ++ "\n"))
  /-- The devices alone count, and not how they came about. -/
  same : ∀ other, (∀ device, Stands history device ↔ Stands other device) →
    (after other).listing = text
  /-- What becomes of a handle depends on the changes to it alone, ... -/
  own : ∀ device, Stands history device ↔ Stands (history.filter (·.id = device.id)) device
  /-- ... and removing or touching a handle that is not registered changes nothing. -/
  absent : ∀ change : Change, (∀ device, Stands history device → device.id ≠ change.id) →
    (∀ device, change ≠ .insert device) → (after (history ++ [change])).listing = text

theorem isEmpty_iff {registry : Registry} :
    registry.isEmpty ↔ ∀ device, device ∉ registry.devices := by
  rw [isEmpty, List.isEmpty_iff, List.eq_nil_iff_forall_not_mem]

theorem lists_listing (history : List Change) : Lists history (after history).listing where
  none hnone := by
    apply listing_of_isEmpty
    rw [isEmpty_iff]
    exact fun device hmem => hnone device (mem_after_iff.mp hmem)
  some := by
    rintro ⟨device, hstands⟩
    have hsome : ¬ (after history).isEmpty := fun hempty =>
      isEmpty_iff.mp hempty device (mem_after_iff.mpr hstands)
    refine ⟨(after history).devices, (after history).devices.map Device.text,
      (after history).ascending, fun _ => mem_after_iff, ?_, ?_⟩
    · rw [List.forall₂_map_right_iff, List.forall₂_same]
      exact fun other _ => other.isRecord_text
    · rw [listing, if_neg hsome, List.map_map]
      rfl
  same other hsame := by
    have hregistry : after other = after history := eq_of_mem_iff fun device => by
      rw [mem_after_iff, mem_after_iff, hsame]
    rw [hregistry]
  own device := by
    rw [← mem_after_iff, ← mem_after_iff, mem_devices_iff, mem_devices_iff, get?_after_filter]
  absent change habsent hchange := by
    rw [after_concat, apply_of_absent ?_ hchange]
    rw [Option.eq_none_iff_forall_ne_some]
    intro device hfound
    obtain ⟨hmem, hid⟩ := get?_eq_some_iff.mp hfound
    exact habsent device (mem_after_iff.mp hmem) hid

end Registry

/-- The list shows the devices that stand registered, whatever the registry has seen. -/
theorem list_showsRegistered (S : Setting η ω) (session : Session η ω)
    {history : List Registry.Change}
    (hregistry : S.engine.registry session.engine = Registry.after history) {line : List Char}
    (hline : Words.ofLine line = ["list".toList]) :
    (dispatch S line session).events.output =
        session.console.clip (Utf8.encode (Registry.after history).listing) ∧
      Registry.Lists history (Registry.after history).listing := by
  have hshown : handlingOf S session.engine line = .shows (Registry.after history).listing := by
    rw [handlingOf, Command.ofLine?_of_list hline, ← hregistry]
    rfl
  constructor
  · rw [(dispatch_handled S session line).output, hshown]
    rfl
  · exact Registry.lists_listing history

/-- Of two devices that were registered out of order one was registered anew and then touched, and
one was removed in the end. -/
theorem list_showsRegistered_rehearsed :
    let entry : ObjectEntry := ⟨3, some (1, 1), [0, 0]⟩
    let device : Device := ⟨2, "b", .v1_1, .empty, none, none, 300, [entry, ⟨5, some (0, 0), []⟩]⟩
    let history : List Registry.Change :=
      [.insert { device with id := 9 }, .insert { device with name := "a" }, .insert device,
        .touch 2 60, .touch 7 5, .remove 9]
    let engine := { ScriptedEngine.idle with registry := Registry.after history }
    let session : Session ScriptedEngine ScriptedHost := .start engine .idle .working
    Setting.rehearsed.engine.registry session.engine = Registry.after history ∧
      Words.ofLine " list ".toList = ["list".toList] ∧
      (dispatch .rehearsed " list ".toList session).events.output =
        session.console.clip (Utf8.encode (Registry.after history).listing) ∧
      Registry.Lists history (Registry.after history).listing ∧
      (Registry.after history).listing =
        "Client #2:\n\tname: \"b\"\n\tversion: \"1.1\"\n\tbinding: \"Not specified\"\n" ++
          "\tlifetime: 60 sec\n\tobjects: /3 (1.1), /3/0, /3/0, /5\n\n" := by
  intro entry device history engine session
  have hregistry : Setting.rehearsed.engine.registry session.engine = Registry.after history := rfl
  have hline : Words.ofLine " list ".toList = ["list".toList] := by decide +kernel
  obtain ⟨houtput, hlists⟩ := list_showsRegistered .rehearsed session hregistry hline
  exact ⟨hregistry, hline, houtput, hlists, by decide +kernel⟩

end DeviceConsole
