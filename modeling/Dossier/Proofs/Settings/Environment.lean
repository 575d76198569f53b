import Dossier.Proofs.Settings.Guess
import Dossier.Settings.Loading

/-! # Loading text options

The directory of the rows and the address of scan status lookups are texts. A variable that sets one of them changes
nothing else of the settings, whatever other variables there are, and the option has the text that the variable shows.
Main statement: `load_text`.
-/

namespace Dossier.Settings

open Number

/-- The members of the table under a name; none, if nothing is there. -/
def inside (members : List (String × Entry)) (name : String) : List (String × Entry) :=
  ((members.lookup name).getD .null).members

/-- Whether what stands under a name, if anything, is a table. -/
def TableAt (members : List (String × Entry)) (name : String) : Prop :=
  ∀ entry, members.lookup name = some entry → ∃ source inner, entry = .table source inner

namespace Entry

theorem lookup_putMember (key other : String) (entry : Entry) (members : List (String × Entry)) :
    (putMember key entry members).lookup other = if other = key then some entry else members.lookup other := by
  fun_induction putMember key entry members with
  | case1 => grind
  | case2 => grind
  | case3 k e rest differ ih => grind

theorem exists_put (entry : Entry) (key : String) (path : List Step) (old : Entry) :
    ∃ source members, put entry (.key key :: path) old = .table source members := by
  unfold put
  exact ⟨_, _, rfl⟩

/-- After something is put at a path, what is found under the first key of the path has the rest of it put in. -/
theorem lookup_put (entry : Entry) (key : String) (path : List Step) (old : Entry) (other : String) :
    (put entry (.key key :: path) old).members.lookup other =
      if other = key then some (put entry path ((old.members.lookup key).getD .null))
      else old.members.lookup other := by
  rw [← lookup_putMember]
  conv_lhs => unfold put
  rfl

variable {entry old : Entry} {key name : String} {path : List Step}

theorem inside_put_same : inside (put entry (.key key :: path) old).members key =
    (put entry path ((old.members.lookup key).getD .null)).members := by
  rw [inside, lookup_put, if_pos rfl, Option.getD_some]

theorem inside_put_other (differ : name ≠ key) :
    inside (put entry (.key key :: path) old).members name = inside old.members name := by
  rw [inside, lookup_put, if_neg differ, inside]

theorem tableAt_put_same (other : String) : TableAt (put entry (.key key :: .key other :: path) old).members key := by
  intro e found
  rw [lookup_put, if_pos rfl] at found
  exact Option.some.inj found ▸ exists_put ..

theorem tableAt_put_other (differ : name ≠ key) (table : TableAt old.members name) :
    TableAt (put entry (.key key :: path) old).members name := by
  intro e found
  rw [lookup_put, if_neg differ] at found
  exact table e found

end Entry

/-- The options that are texts. -/
inductive TextOption where
  | dataDir
  | baseUrl
  deriving Repr, DecidableEq

namespace TextOption

def variableName : TextOption → String
  | .dataDir => "DOCPROC__STORAGE__DATA_DIR"
  | .baseUrl => "DOCPROC__SCAN__BASE_URL"

/-- The key of the table that an option is in. -/
def table : TextOption → String
  | .dataDir => "storage"
  | .baseUrl => "scan"

def key : TextOption → String
  | .dataDir => "data_dir"
  | .baseUrl => "base_url"

def path (option : TextOption) : List Step :=
  [.key option.table, .key option.key]

/-- The settings with a text for an option. -/
def set (option : TextOption) (text : String) (settings : Settings) : Settings :=
  match option with
  | .dataDir => { settings with storage := { settings.storage with dataDir := text } }
  | .baseUrl => { settings with scan := { settings.scan with baseUrl := some text } }

/-- Whether a path leads beside an option: neither to it nor to what it is in. -/
inductive Beside (option : TextOption) : List Step → Prop
  | table {key rest} (differ : option.table ≠ key) : Beside option (.key key :: rest)
  | key {key rest} (differ : option.key ≠ key) : Beside option (.key option.table :: .key key :: rest)

/-- Whether a variable sets nothing, or something beside an option. -/
def SparedBy (option : TextOption) (variableName : String) : Prop :=
  ∀ name, settingName? variableName = some name → option.Beside (readPath name)

/-- Whether a tree has no entry for an option, and room for one. -/
structure Lacks (option : TextOption) (tree : Entry) : Prop where
  isTable : ∃ source members, tree = .table source members
  table : TableAt tree.members option.table
  missing : (inside tree.members option.table).lookup option.key = none

/-- Whether a tree says what another says and has an entry for an option besides. Members are compared by what is found
under their names, as the entry may stand anywhere among them. -/
structure Adds (option : TextOption) (entry tree plain : Entry) : Prop where
  lacks : option.Lacks plain
  isTable : ∃ source members, tree = .table source members
  table : TableAt tree.members option.table
  added : (inside tree.members option.table).lookup option.key = some entry
  tables : ∀ name, name ≠ option.table → tree.members.lookup name = plain.members.lookup name
  keys : ∀ name, name ≠ option.key →
    (inside tree.members option.table).lookup name = (inside plain.members option.table).lookup name

variable {option : TextOption} {entry other tree plain : Entry} {path : List Step}

theorem Lacks.put (lacks : option.Lacks tree) (beside : option.Beside path) : option.Lacks (other.put path tree) := by
  cases beside with
  | table differ =>
      refine ⟨Entry.exists_put .., Entry.tableAt_put_other differ lacks.table, ?_⟩
      rw [Entry.inside_put_other differ]
      exact lacks.missing
  | key differ =>
      refine ⟨Entry.exists_put .., Entry.tableAt_put_same _, ?_⟩
      rw [Entry.inside_put_same, Entry.lookup_put, if_neg differ]
      exact lacks.missing

/-- An entry that is put where none is adds the option. -/
theorem Lacks.adds (lacks : option.Lacks tree) (source : Option Source) (scalar : Scalar) :
    option.Adds (.scalar source scalar) ((Entry.scalar source scalar).put option.path tree) tree := by
  refine ⟨lacks, Entry.exists_put .., Entry.tableAt_put_same _, ?_, fun name differ => ?_, fun name differ => ?_⟩
  · rw [TextOption.path, Entry.inside_put_same, Entry.lookup_put, if_pos rfl]
    rfl
  · rw [TextOption.path, Entry.lookup_put, if_neg differ]
  · rw [TextOption.path, Entry.inside_put_same, Entry.lookup_put, if_neg differ]
    rfl

/-- What is put beside an option is put in both trees. -/
theorem Adds.put (adds : option.Adds entry tree plain) (beside : option.Beside path) :
    option.Adds entry (other.put path tree) (other.put path plain) := by
  have lacks : option.Lacks (other.put path plain) := adds.lacks.put beside
  cases beside with
  -- In another table nothing of the option's is touched; in its own the other keys change alike in both trees.
  | table differ =>
      refine ⟨lacks, Entry.exists_put .., Entry.tableAt_put_other differ adds.table, ?_, fun name apart => ?_,
        fun name apart => ?_⟩
      · rw [Entry.inside_put_other differ]
        exact adds.added
      · rw [Entry.lookup_put, Entry.lookup_put]
        split
        · rw [adds.tables _ differ.symm]
        · exact adds.tables name apart
      · rw [Entry.inside_put_other differ, Entry.inside_put_other differ]
        exact adds.keys name apart
  | key differ =>
      refine ⟨lacks, Entry.exists_put .., Entry.tableAt_put_same _, ?_, fun name apart => ?_, fun name apart => ?_⟩
      · rw [Entry.inside_put_same, Entry.lookup_put, if_neg differ]
        exact adds.added
      · rw [Entry.lookup_put, Entry.lookup_put, if_neg apart, if_neg apart]
        exact adds.tables name apart
      · rw [Entry.inside_put_same, Entry.inside_put_same, Entry.lookup_put, Entry.lookup_put]
        split
        · exact congrArg (fun found => some (other.put _ (Option.getD found .null))) (adds.keys _ differ.symm)
        · exact adds.keys name apart

end TextOption

/-- What is decoded for a field that may be missing. -/
def given {α : Type} (place : Place) (members : List (String × Entry)) (name : String) (decode : Decoder α)
    (missing : α) : Except Fault α :=
  match members.lookup name with
  | some entry => decode (place.member name) entry
  | none => .ok missing

section

variable {α β δ : Type} {place : Place} {members others : List (String × Entry)} {name : String} {entry : Entry}
  {decode : Decoder α} {missing : α} {rest : List (Field δ)} {draft : δ} {set : δ → α → δ}

theorem given_some (found : members.lookup name = some entry) :
    given place members name decode missing = decode (place.member name) entry := by
  rw [given, found]

theorem given_none (none : members.lookup name = none) : given place members name decode missing = .ok missing := by
  rw [given, none]

theorem given_congr (same : members.lookup name = others.lookup name) :
    given place members name decode missing = given place others name decode missing := by
  rw [given, given, same]

theorem fillMembers_of (missing : α) (blank : set draft missing = draft) :
    fillMembers place members (.of name true set decode :: rest) draft =
      (given place members name decode missing).bind fun a => fillMembers place members rest (set draft a) := by
  simp only [fillMembers, Field.of, given]
  cases members.lookup name with
  | none => exact (congrArg (fillMembers place members rest) blank).symm
  | some entry =>
      simp only []
      cases decode (place.member name) entry with
      | error fault => rfl
      | ok a => rfl

theorem bind_congr {x : Except Fault α} {f g : α → Except Fault β} (same : ∀ a, f a = g a) : x.bind f = x.bind g :=
  congrArg x.bind (funext same)

theorem bind_eq_map {x : Except Fault α} {f g : α → Except Fault β} {change : β → β}
    (same : ∀ a, f a = (g a).map change) : x.bind f = (x.bind g).map change := by
  cases x with
  | error fault => rfl
  | ok a => exact same a

theorem map_bind_eq_map {x : Except Fault α} {f : α → Except Fault β} {own : α → α} {change : β → β}
    (same : ∀ a, f (own a) = (f a).map change) : (x.map own).bind f = (x.bind f).map change := by
  cases x with
  | error fault => rfl
  | ok a => exact same a

theorem given_storage (table : TableAt members "storage") :
    given place members "storage" decodeStorage {} =
      (given (place.member "storage") (inside members "storage") "backend" decodeBackend .table).bind fun backend =>
        (given (place.member "storage") (inside members "storage") "data_dir" decodeText "./data").bind fun dataDir =>
          .ok ⟨backend, dataDir⟩ := by
  rw [given, inside]
  cases known : members.lookup "storage" with
  | none => rfl
  | some entry =>
      obtain ⟨source, inner, rfl⟩ := table entry known
      refine (fillMembers_of .table rfl).trans (bind_congr fun backend => ?_)
      exact fillMembers_of "./data" rfl

theorem given_scan (table : TableAt members "scan") :
    given place members "scan" decodeScan {} =
      (given (place.member "scan") (inside members "scan") "base_url" decodeOptionalText none).bind fun baseUrl =>
        (given (place.member "scan") (inside members "scan") "timeout_secs" decodeWord 10).bind fun timeoutSecs =>
          .ok ⟨baseUrl, timeoutSecs⟩ := by
  rw [given, inside]
  cases known : members.lookup "scan" with
  | none => rfl
  | some entry =>
      obtain ⟨source, inner, rfl⟩ := table entry known
      refine (fillMembers_of none rfl).trans (bind_congr fun baseUrl => ?_)
      exact fillMembers_of 10 rfl

theorem decode_table (place : Place) (source : Option Source) (members : List (String × Entry)) :
    Settings.decode place (.table source members) =
      (given place members "storage" decodeStorage {}).bind fun storage =>
        (given place members "scan" decodeScan {}).bind fun scan =>
          (given place members "queue" decodeQueue {}).bind fun queue =>
            (given place members "processors" (decodeList decodeProcessor) []).bind fun processors =>
              .ok ⟨storage, scan, queue, processors⟩ := by
  refine (fillMembers_of {} rfl).trans (bind_congr fun storage => ?_)
  refine (fillMembers_of {} rfl).trans (bind_congr fun scan => ?_)
  refine (fillMembers_of {} rfl).trans (bind_congr fun queue => ?_)
  exact fillMembers_of [] rfl

end

theorem decodeOptionalText_of_shown {s t : String} {place : Place} {source : Option Source} (shown : Shown s t) :
    decodeOptionalText place (.scalar source (scalarOfText s)) = .ok (some t) := by
  have decoded : decodeText place (.scalar source (scalarOfText s)) = .ok t := decodeText_of_shown shown
  unfold decodeOptionalText
  split
  · rename_i null
    rw [null] at decoded
    cases decoded
  · rw [decoded]
    rfl

namespace TextOption

variable {option : TextOption} {source : Option Source} {tree plain : Entry} {s t : String} {place : Place}

theorem Adds.storage (adds : dataDir.Adds (.scalar source (scalarOfText s)) tree plain) (shown : Shown s t) :
    given place tree.members "storage" decodeStorage {} =
      (given place plain.members "storage" decodeStorage {}).map fun storage => { storage with dataDir := t } := by
  have backend : (inside tree.members "storage").lookup "backend" = (inside plain.members "storage").lookup "backend" :=
    adds.keys "backend" (by decide)
  have own {place : Place} : given place (inside tree.members "storage") "data_dir" decodeText "./data" = .ok t :=
    (given_some adds.added).trans (decodeText_of_shown shown)
  have default {place : Place} : given place (inside plain.members "storage") "data_dir" decodeText "./data" =
      .ok "./data" := given_none adds.lacks.missing
  rw [given_storage adds.table, given_storage adds.lacks.table, given_congr backend, own, default]
  generalize given (place.member "storage") (inside plain.members "storage") "backend" decodeBackend .table = decoded
  cases decoded <;> rfl

theorem Adds.scan (adds : baseUrl.Adds (.scalar source (scalarOfText s)) tree plain) (shown : Shown s t) :
    given place tree.members "scan" decodeScan {} =
      (given place plain.members "scan" decodeScan {}).map fun scan => { scan with baseUrl := some t } := by
  have timeout : (inside tree.members "scan").lookup "timeout_secs" =
      (inside plain.members "scan").lookup "timeout_secs" := adds.keys "timeout_secs" (by decide)
  have own {place : Place} : given place (inside tree.members "scan") "base_url" decodeOptionalText none =
      .ok (some t) := (given_some adds.added).trans (decodeOptionalText_of_shown shown)
  have default {place : Place} : given place (inside plain.members "scan") "base_url" decodeOptionalText none =
      .ok none := given_none adds.lacks.missing
  rw [given_scan adds.table, given_scan adds.lacks.table, given_congr timeout, own, default]
  generalize given (place.member "scan") (inside plain.members "scan") "timeout_secs" decodeWord 10 = decoded
  cases decoded <;> rfl

/-- With an entry for an option besides the same settings are decoded, but for the option. -/
theorem Adds.decode (adds : option.Adds (.scalar source (scalarOfText s)) tree plain) (shown : Shown s t) :
    Settings.decode place tree = (Settings.decode place plain).map (option.set t) := by
  obtain ⟨_, members, rfl⟩ := adds.isTable
  obtain ⟨_, others, rfl⟩ := adds.lacks.isTable
  have same {α : Type} {place : Place} {name : String} {decode : Decoder α} {missing : α}
      (differ : name ≠ option.table) :
      given place members name decode missing = given place others name decode missing :=
    given_congr (adds.tables name differ)
  rw [decode_table, decode_table]
  cases option with
  | dataDir =>
      have storage : given place members "storage" decodeStorage {} =
          (given place others "storage" decodeStorage {}).map _ := adds.storage shown
      rw [storage, same (by decide : "scan" ≠ dataDir.table), same (by decide : "queue" ≠ dataDir.table),
        same (by decide : "processors" ≠ dataDir.table)]
      refine map_bind_eq_map fun storage => ?_
      exact bind_eq_map fun scan => bind_eq_map fun queue => bind_eq_map fun processors => rfl
  | baseUrl =>
      have scan : given place members "scan" decodeScan {} = (given place others "scan" decodeScan {}).map _ :=
        adds.scan shown
      rw [scan, same (by decide : "storage" ≠ baseUrl.table), same (by decide : "queue" ≠ baseUrl.table),
        same (by decide : "processors" ≠ baseUrl.table)]
      refine bind_eq_map fun storage => map_bind_eq_map fun scan => ?_
      exact bind_eq_map fun queue => bind_eq_map fun processors => rfl

/-- A tree after a variable, which is put into it if it sets anything. -/
def putVariable (tree : Entry) (pair : String × String) : Entry :=
  match readVariable? pair with
  | some (path, entry) => Entry.put entry path tree
  | none => tree

theorem foldl_readVariable? (environment : List (String × String)) (tree : Entry) :
    (environment.filterMap readVariable?).foldl (fun tree (path, entry) => Entry.put entry path tree) tree =
      environment.foldl putVariable tree := by
  induction environment generalizing tree with
  | nil => rfl
  | cons pair rest ih =>
      rw [List.filterMap_cons, List.foldl_cons, putVariable]
      split
      · rename_i none
        rw [none]
        exact ih tree
      · rename_i part known
        rw [known]
        exact ih _

theorem load_eq (environment : List (String × String)) :
    load [] environment =
      (Settings.decode "" (environment.foldl putVariable (.table none []))).mapError .undecodable := by
  rw [← foldl_readVariable?]
  rfl

variable {before after : List (String × String)} {v : String × String}

theorem SparedBy.beside {entry : Entry} {path : List Step} (spared : option.SparedBy v.1)
    (known : readVariable? v = some (path, entry)) : option.Beside path := by
  obtain ⟨name, named, same⟩ := Option.map_eq_some_iff.mp known
  cases same
  exact spared name named

theorem Lacks.variable (lacks : option.Lacks tree) (spared : option.SparedBy v.1) :
    option.Lacks (putVariable tree v) := by
  unfold putVariable
  split
  · exact lacks.put (spared.beside ‹_›)
  · exact lacks

theorem Adds.variable {entry : Entry} (adds : option.Adds entry tree plain) (spared : option.SparedBy v.1) :
    option.Adds entry (putVariable tree v) (putVariable plain v) := by
  unfold putVariable
  split
  · exact adds.put (spared.beside ‹_›)
  · exact adds

theorem Lacks.variables (lacks : option.Lacks tree) (spared : ∀ v ∈ before, option.SparedBy v.1) :
    option.Lacks (before.foldl putVariable tree) := by
  induction before generalizing tree with
  | nil => exact lacks
  | cons v rest ih =>
      exact ih (lacks.variable (spared v List.mem_cons_self)) fun v member => spared v (List.mem_cons_of_mem _ member)

theorem Adds.variables {entry : Entry} (adds : option.Adds entry tree plain)
    (spared : ∀ v ∈ after, option.SparedBy v.1) :
    option.Adds entry (after.foldl putVariable tree) (after.foldl putVariable plain) := by
  induction after generalizing tree plain with
  | nil => exact adds
  | cons v rest ih =>
      exact ih (adds.variable (spared v List.mem_cons_self)) fun v member => spared v (List.mem_cons_of_mem _ member)

theorem settingName?_eq (name : String) : settingName? name =
    let lowered := name.toList.map Text.lowerChar
    if variableStart.isPrefixOf lowered then some (String.ofList (dotted (lowered.drop variableStart.length)))
    else none := by
  rw [settingName?, Text.lower, String.toList_map]

theorem readVariable?_variableName (option : TextOption) (s : String) :
    readVariable? (option.variableName, s) =
      some (option.path, .scalar (some .environment) (scalarOfText s)) := by
  have named : settingName? option.variableName = some (option.table ++ "." ++ option.key) := by
    rw [settingName?_eq]
    cases option <;> decide
  have path : readPath (option.table ++ "." ++ option.key) = option.path := by
    cases option <;> decide
  rw [readVariable?, named, Option.map_some, path]

/-- Between variables that spare an option the variable of the option adds its entry. -/
theorem adds_variables (spared : ∀ v ∈ before ++ after, option.SparedBy v.1) (s : String) :
    option.Adds (.scalar (some .environment) (scalarOfText s))
      ((before ++ (option.variableName, s) :: after).foldl putVariable (.table none []))
      ((before ++ after).foldl putVariable (.table none [])) := by
  have empty : option.Lacks (.table none []) := ⟨⟨_, _, rfl⟩, (fun e found => nomatch found), rfl⟩
  have lacks := empty.variables fun v member => spared v (List.mem_append_left _ member)
  rw [List.foldl_append, List.foldl_append, List.foldl_cons, putVariable, readVariable?_variableName]
  exact (lacks.adds _ _).variables fun v member => spared v (List.mem_append_right _ member)

/-- With the variable of an option and others that spare it the same is loaded as with these, but for the option, which
has the text that the variable shows. -/
theorem load_shown (spared : ∀ v ∈ before ++ after, option.SparedBy v.1) (shown : Shown s t) :
    load [] (before ++ (option.variableName, s) :: after) = (load [] (before ++ after)).map (option.set t) := by
  rw [load_eq, load_eq, (adds_variables spared s).decode shown]
  generalize Settings.decode "" _ = decoded
  cases decoded <;> rfl

theorem set_injective {settings : Settings} {t u : String} (same : option.set t settings = option.set u settings) :
    t = u := by
  cases option with
  | dataDir => exact congrArg (fun settings => settings.storage.dataDir) same
  | baseUrl => exact Option.some.inj (congrArg (fun settings => settings.scan.baseUrl) same)

/-- The variable of an option, among others that spare it and can be loaded without it, can be loaded for every text.
It changes the option alone, which then has one text that is known: the text of the variable just if this is kept. What
the option has is kept in its turn, but for a zero behind a minus, and two texts are loaded as the same settings just if
they show the same. -/
theorem load_text {settings : Settings} (s : String) (spared : ∀ v ∈ before ++ after, option.SparedBy v.1)
    (loaded : load [] (before ++ after) = .ok settings) :
    ∃ t, load [] (before ++ (option.variableName, s) :: after) = .ok (option.set t settings) ∧
      (∀ u, Shown s u ↔ u = t) ∧ (t = s ↔ Kept s) ∧ (t ≠ "-0" → Kept t) ∧
      ∀ s', load [] (before ++ (option.variableName, s') :: after) =
        load [] (before ++ (option.variableName, s) :: after) ↔ Shown s' t := by
  have known {s t : String} (shown : Shown s t) :
      load [] (before ++ (option.variableName, s) :: after) = .ok (option.set t settings) := by
    rw [load_shown spared shown, loaded]
    rfl
  obtain ⟨t, shown⟩ := exists_shown s
  refine ⟨t, known shown, fun u => ?_, ?_, shown.kept, fun s' => ?_⟩
  · exact ⟨fun also => also.unique shown, fun same => same ▸ shown⟩
  · rw [kept_iff]
    exact ⟨fun same => same ▸ shown, fun kept => shown.unique kept⟩
  · obtain ⟨t', shown'⟩ := exists_shown s'
    rw [known shown, known shown']
    constructor
    · intro same
      exact set_injective (Except.ok.inj same) ▸ shown'
    · intro also
      rw [shown'.unique also]

theorem shown_leadingZeros : Shown "007" "7" :=
  .whole (n := 7) (readInt?_eq_some.mp rfl) rfl

theorem settingName?_others :
    settingName? "PATH" = none ∧ settingName? "DOCPROC__QUEUE__WORKERS" = some "queue.workers" := by
  rw [settingName?_eq, settingName?_eq]
  decide

theorem dataDir_with_workers :
    (∀ v ∈ [("PATH", "/usr/bin")] ++ [("DOCPROC__QUEUE__WORKERS", "8")], dataDir.SparedBy v.1) ∧
      load [] ([("PATH", "/usr/bin")] ++ [("DOCPROC__QUEUE__WORKERS", "8")]) = .ok { queue := { workers := 8 } } ∧
      load [] ([("PATH", "/usr/bin")] ++ ("DOCPROC__STORAGE__DATA_DIR", "007") ::
        [("DOCPROC__QUEUE__WORKERS", "8")]) = .ok { storage := { dataDir := "7" }, queue := { workers := 8 } } := by
  have path : readPath "queue.workers" = [.key "queue", .key "workers"] := by decide
  have spared : ∀ v ∈ [("PATH", "/usr/bin")] ++ [("DOCPROC__QUEUE__WORKERS", "8")], dataDir.SparedBy v.1 := by
    intro v member name named
    simp only [List.cons_append, List.nil_append, List.mem_cons, List.not_mem_nil, or_false] at member
    rcases member with rfl | rfl
    · rw [settingName?_others.1] at named
      cases named
    · rw [settingName?_others.2] at named
      obtain rfl := Option.some.inj named
      rw [path]
      exact .table (by decide)
  have loaded : load [] ([("PATH", "/usr/bin")] ++ [("DOCPROC__QUEUE__WORKERS", "8")]) =
      .ok { queue := { workers := 8 } } := by
    have eight : scalarOfText "8" = .whole 8 := scalarOfText_of_whole (readInt?_eq_some.mp rfl) rfl
    rw [load_eq]
    simp only [List.cons_append, List.nil_append, List.foldl_cons, List.foldl_nil, putVariable, readVariable?,
      settingName?_others.1, settingName?_others.2, Option.map_none, Option.map_some, path, eight]
    rfl
  obtain ⟨t, among, shows, -⟩ := load_text "007" spared loaded
  obtain rfl := (shows "7").mp shown_leadingZeros
  exact ⟨spared, loaded, among⟩

/-- A variable with zeros in front of a number sets the same as one without them. -/
theorem leadingZeros_lost :
    load [] [("DOCPROC__STORAGE__DATA_DIR", "007")] = .ok { storage := { dataDir := "7" } } ∧
      load [] [("DOCPROC__STORAGE__DATA_DIR", "7")] = .ok { storage := { dataDir := "7" } } ∧
      load [] [("DOCPROC__SCAN__BASE_URL", "007")] = .ok { scan := { baseUrl := some "7" } } ∧ "7" ≠ "007" := by
  have alone (option : TextOption) {s t : String} (shown : Shown s t) :
      load [] [(option.variableName, s)] = .ok (option.set t {}) := by
    have none : ∀ v ∈ ([] ++ [] : List (String × String)), option.SparedBy v.1 := by simp
    exact load_shown none shown
  exact ⟨alone .dataDir shown_leadingZeros, alone .dataDir (.whole (n := 7) (readInt?_eq_some.mp rfl) rfl),
    alone .baseUrl shown_leadingZeros, by decide⟩

end TextOption

end Dossier.Settings
