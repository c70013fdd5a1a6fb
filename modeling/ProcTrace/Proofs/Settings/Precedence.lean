import Mathlib
import ProcTrace.Proofs.Text.Utf8
import ProcTrace.Proofs.Toml.Keys
import ProcTrace.Settings.Load

/-!
# Which URL the configuration comes to

Of the three layers of a configuration each is laid over the ones before it, by rules that know
nothing of services and URLs: keys lead into tables, names of variables are taken apart, and what is
a table is merged. For a **plain** file, whose keys are names in small letters, and a **clear**
environment, which speaks of the service at most once, this comes to a simple rule: the URL of the
environment goes before the one of the file, and this before the default (`loadFrom_precedence`).

Only one part of the tree of settings matters, the URL in the table of the service
(`Node.GivesUrl`). A layer replaces it (`givesUrl_document`, `givesUrl_put`) or leaves it
(`entry?_entriesOver`, `entry?_put`). That a file cannot replace it twice is a property of TOML
(`Toml.parse_isProper`).

Nothing but an index can end the process, and no name of a variable without a bracket has one
(`exists_over`, `index_notMem_path`).
-/

namespace ProcTrace.Settings

variable {room : Room}

/-! ### Plain names -/

/-- A **plain name** is a key that stands for itself: it is in small letters, and it has none of the
characters that lead from a key into tables and lists. -/
def IsPlainName (key : String) : Prop :=
  ∀ c ∈ key.toList, lowerChar c = [c] ∧ c ≠ '.' ∧ c ≠ '['

/-- A small letter of ASCII, a digit or an underscore. -/
def isPlainChar (c : Char) : Bool :=
  c.isLower || c.isDigit || c = '_'

/-- Names of such characters are plain. -/
private theorem isPlainName_of_all {key : String} (h : key.toList.all isPlainChar = true) :
    IsPlainName key := by
  have hascii : ∀ n : Fin 128, isPlainChar (Char.ofNat n) →
      lowerChar (Char.ofNat n) = [Char.ofNat n] ∧ Char.ofNat n ≠ '.' ∧ Char.ofNat n ≠ '[' := by
    decide
  intro c hc
  have hplain : isPlainChar c = true := List.all_eq_true.1 h c hc
  have hlt : c.toNat < 128 := by
    simp only [isPlainChar, Char.isLower, Char.isDigit, Bool.or_eq_true, Bool.and_eq_true,
      decide_eq_true_eq, ge_iff_le, UInt32.le_iff_toNat_le] at hplain
    obtain (⟨-, hz⟩ | ⟨-, h9⟩) | rfl := hplain
    · exact Nat.lt_of_le_of_lt hz (by decide)
    · exact Nat.lt_of_le_of_lt h9 (by decide)
    · decide
  rw [← Char.ofNat_toNat c] at hplain ⊢
  exact hascii ⟨c.toNat, hlt⟩ hplain

/-- Characters in small letters stay as they are. -/
private theorem flatMap_lowerChar {cs : List Char} (h : ∀ c ∈ cs, lowerChar c = [c]) :
    cs.flatMap lowerChar = cs := by
  induction cs with
  | nil => rfl
  | cons c cs ih =>
    obtain ⟨hc, hcs⟩ := List.forall_mem_cons.1 h
    rw [List.flatMap_cons, hc, ih hcs]
    rfl

theorem IsPlainName.lower_eq {key : String} (h : IsPlainName key) : lower key = key := by
  rw [lower, flatMap_lowerChar fun c hc => (h c hc).1, String.ofList_toList]

/-- A path starts with a name, which the key starts with. -/
private theorem exists_path (key : String) :
    ∃ name steps, path key = .key name :: steps ∧ name.toList <+: key.toList := by
  unfold path path?
  by_cases hname : key.toList.takeWhile isNameChar = []
  · exact ⟨key, [], by simp only [hname, if_true, Option.getD_none], List.prefix_rfl⟩
  · cases stepsUpTo key.toList.length (key.toList.dropWhile isNameChar) with
    | none =>
      exact ⟨key, [], by simp only [if_neg hname, Option.map_none, Option.getD_none],
        List.prefix_rfl⟩
    | some steps =>
      refine ⟨String.ofList (key.toList.takeWhile isNameChar), steps,
        by simp only [if_neg hname, Option.map_some, Option.getD_some], ?_⟩
      rw [String.toList_ofList]
      exact List.takeWhile_prefix isNameChar

/-- Only a point or a bracket leads on from a name. -/
private theorem stepsUpTo_eq_none {n : Nat} {c : Char} {cs : List Char} (hpoint : c ≠ '.')
    (hbracket : c ≠ '[') : stepsUpTo n (c :: cs) = none := by
  unfold stepsUpTo
  split
  · next h => cases h
  · next h => cases h; exact absurd rfl hpoint
  · next h => cases h; exact absurd rfl hbracket
  · rfl

theorem IsPlainName.path_eq {key : String} (h : IsPlainName key) : path key = [.key key] := by
  simp only [path, path?]
  split
  · rfl
  · cases hrest : key.toList.dropWhile isNameChar with
    | nil =>
      have hname : key.toList.takeWhile isNameChar = key.toList := by
        have := List.takeWhile_append_dropWhile (p := isNameChar) (l := key.toList)
        rwa [hrest, List.append_nil] at this
      simp only [hname, stepsUpTo, Option.map_some, Option.getD_some, String.ofList_toList]
    | cons c cs =>
      have hc : c ∈ key.toList :=
        (List.dropWhile_sublist isNameChar).subset (hrest ▸ List.mem_cons_self)
      rw [stepsUpTo_eq_none (h c hc).2.1 (h c hc).2.2]
      rfl

/-! ### Entries -/

private theorem lookup_cons_eq (k key : String) (n : Node) (entries : List (String × Node)) :
    ((key, n) :: entries).lookup k = if k = key then some n else entries.lookup k := by
  by_cases hk : k = key
  · rw [if_pos hk, hk, List.lookup_cons_self]
  · rw [if_neg hk, List.lookup_cons, beq_false_of_ne hk]

private theorem lookup_change (key : String) (f : Option Node → Node)
    (entries : List (String × Node)) (k : String) : (change key f entries).lookup k =
      if k = key then some (f (entries.lookup key)) else entries.lookup k := by
  induction entries with
  | nil => simp only [change, lookup_cons_eq, List.lookup_nil]
  | cons e entries ih =>
    obtain ⟨key', n⟩ := e
    by_cases hkey : key' = key
    · subst hkey
      simp only [change, if_true, lookup_cons_eq]
      split_ifs <;> rfl
    · simp only [change, if_neg hkey, lookup_cons_eq, ih, if_neg (Ne.symm hkey)]
      split_ifs with hk hk'
      · exact absurd (hk.symm.trans hk') hkey
      · rfl
      · rfl
      · rfl

/-- A changed entry is changed, and all others are as they were. -/
private theorem entry?_changeEntry (n : Node) (key : String) (f : Option Node → Node) (k : String) :
    Node.entry? (n.changeEntry key f) k =
      if k = lower key then some (f (n.entry? k)) else n.entry? k := by
  have hchange (entries : List (String × Node)) : (change (lower key) f entries).lookup k =
      if k = lower key then some (f (entries.lookup k)) else entries.lookup k := by
    rw [lookup_change]
    split_ifs with hk
    · rw [hk]
    · rfl
  cases n <;> exact hchange _

/-- The tree is a table. -/
def Node.IsTable (n : Node) : Prop :=
  ∃ origin entries, n = .table origin entries

private theorem isTable_changeEntry (n : Node) (key : String) (f : Option Node → Node) :
    (n.changeEntry key f).IsTable := by
  cases n <;> exact ⟨_, _, rfl⟩

private theorem isTable_entriesOver (entries : List (String × Node)) {n : Node} (h : n.IsTable) :
    (Node.entriesOver entries n).IsTable := by
  induction entries generalizing n with
  | nil => simpa only [Node.entriesOver] using h
  | cons e entries ih =>
    rw [Node.entriesOver]
    exact ih (isTable_changeEntry ..)

/-- **Entries with plain names of their own are laid over a tree independently of each other.** -/
theorem entry?_entriesOver {entries : List (String × Node)}
    (hplain : ∀ key ∈ entries.map Prod.fst, IsPlainName key)
    (hkeys : (entries.map Prod.fst).Nodup) (n : Node)
    (k : String) : Node.entry? (Node.entriesOver entries n) k =
      match entries.lookup k with
      | some new => some (Node.over (n.entry? k) new)
      | none => n.entry? k := by
  induction entries generalizing n with
  | nil => simp only [Node.entriesOver, List.lookup_nil]
  | cons e entries ih =>
    obtain ⟨key, new⟩ := e
    obtain ⟨hkey, hplain⟩ := List.forall_mem_cons.1 hplain
    obtain ⟨hnew, hkeys⟩ := List.nodup_cons.1 hkeys
    rw [Node.entriesOver, ih hplain hkeys, entry?_changeEntry, hkey.lower_eq]
    rw [lookup_cons_eq]
    split_ifs with hk
    · -- The entry is laid over once, since its key does not come again.
      have hnone : entries.lookup k = none := by
        rw [List.lookup_eq_none_iff]
        rintro e he
        refine bne_iff_ne.2 fun heq => hnew ?_
        rw [← hk, heq]
        exact List.mem_map_of_mem he
      simp only [hnone]
    · rfl

/-! ### Trees with a URL -/

/-- The tree **gives** a URL: it has a table for the service with the URL in it as a text. -/
def Node.GivesUrl (n : Node) (url : String) : Prop :=
  ∃ service, n.entry? "service" = some service ∧ service.IsTable ∧
    service.entry? "url" = some (.scalar (.text url))

/-- The URL that a tree gives is the one of the configuration. -/
theorem Node.GivesUrl.configOf {n : Node} {url : String} (h : n.GivesUrl url) :
    configOf n = .ok ⟨⟨url⟩⟩ := by
  obtain ⟨_, hservice, ⟨origin, entries, rfl⟩, hurl⟩ := h
  rw [ Node.entry?] at hurl
  simp only [Settings.configOf, hservice, serviceOf, hurl, textOf, Scalar.toText]
  rfl

/-- The URL depends on nothing but the entry of the service. -/
theorem Node.GivesUrl.of_entry?_eq {n n' : Node} {url : String} (h : n.GivesUrl url)
    (heq : n'.entry? "service" = n.entry? "service") : n'.GivesUrl url := by
  rwa [GivesUrl, heq]

private theorem givesUrl_defaults (room : Room) :
    ∃ n, defaults.over room .empty = .ok n ∧ n.GivesUrl defaultServiceUrl :=
  ⟨_, rfl, _, rfl, ⟨_, _, rfl⟩, rfl⟩

/-! ### The file -/

/-- The members of a document are **plain**: their keys are plain names; the service, if they have
it, is a table with plain names as keys; and the URL in this table, if there is one, is a text. -/
structure IsPlainDocument (ms : Toml.Members) : Prop where
  keys : ∀ m ∈ ms, IsPlainName m.1
  service : ∀ v, ms.lookup "service" = some v → ∃ form inner, v = .table form inner ∧
    (∀ m ∈ inner, IsPlainName m.1) ∧ ∀ w, inner.lookup "url" = some w → ∃ s, w = .text s

/-- The URL of the service in a document. -/
def documentUrl? (ms : Toml.Members) : Option String :=
  match ms.lookup "service" with
  | some (.table _ inner) =>
    match inner.lookup "url" with
    | some (.text s) => some s
    | _ => none
  | _ => none

private theorem map_fst_ofMembers (origin : String) (ms : Toml.Members) :
    (Node.ofMembers origin ms).map Prod.fst = ms.map Prod.fst := by
  induction ms with
  | nil => rfl
  | cons m ms ih => rw [Node.ofMembers, List.map_cons, List.map_cons, ih]

private theorem lookup_ofMembers (origin : String) (ms : Toml.Members) (k : String) :
    (Node.ofMembers origin ms).lookup k = (ms.lookup k).map (Node.ofToml origin) := by
  induction ms with
  | nil => rfl
  | cons m ms ih =>
    obtain ⟨key, v⟩ := m
    simp only [Node.ofMembers, List.lookup_cons, ih]
    split <;> rfl

/-- Entries of a file with plain names are laid over a tree independently of each other. -/
private theorem entry?_over_ofMembers (origin : String) {ms : Toml.Members}
    (hplain : ∀ m ∈ ms, IsPlainName m.1) (hproper : Toml.Members.IsProper ms) (n : Node)
    (k : String) : Node.entry? (Node.entriesOver (Node.ofMembers origin ms) n) k =
      match ms.lookup k with
      | some v => some (Node.over (n.entry? k) (Node.ofToml origin v))
      | none => n.entry? k := by
  have hkeys := map_fst_ofMembers origin ms
  rw [entry?_entriesOver (by rw [hkeys]; exact List.forall_mem_map.2 hplain)
    (by rw [hkeys]; exact hproper.keys), lookup_ofMembers]
  cases ms.lookup k <;> rfl

/-- The settings of a file with plain names are laid over a tree like the entries of a table. -/
private theorem over_fileLayer {origin : String} {ms : Toml.Members}
    (hplain : ∀ m ∈ ms, IsPlainName m.1) (n : Node) :
    Layer.over room (ms.map fun (key, v) => (path key, Node.ofToml origin v)) n =
      .ok (Node.entriesOver (Node.ofMembers origin ms) n) := by
  induction ms generalizing n with
  | nil =>
    simp only [List.map_nil, Layer.over, List.foldlM_nil, Node.ofMembers, Node.entriesOver]
    rfl
  | cons m ms ih =>
    obtain ⟨key, v⟩ := m
    obtain ⟨hm, hplain⟩ := List.forall_mem_cons.1 hplain
    rw [Node.ofMembers, Node.entriesOver, ← ih hplain]
    simp only [Layer.over, List.map_cons, List.foldlM_cons, hm.path_eq, Node.put]
    rfl

/-- **The URL of a plain document replaces the one of the settings before it.** -/
theorem givesUrl_document {origin url : String} {ms : Toml.Members} {n : Node}
    (hn : n.GivesUrl url) (hplain : IsPlainDocument ms) (hproper : Toml.Members.IsProper ms) :
    (Node.entriesOver (Node.ofMembers origin ms) n).GivesUrl ((documentUrl? ms).getD url) := by
  have hentry := entry?_over_ofMembers origin hplain.keys hproper n "service"
  cases hservice : ms.lookup "service" with
  | none =>
    rw [hservice] at hentry
    rw [documentUrl?, hservice]
    exact hn.of_entry?_eq hentry
  | some v =>
    obtain ⟨form, inner, rfl, hinner, htext⟩ := hplain.service v hservice
    have hinnerProper := Toml.isProper_table.1 (hproper.lookup hservice)
    -- The table of the document is laid over the one that the tree has already, entry by entry.
    obtain ⟨service, hold, htable, hurl⟩ := hn
    rw [hservice] at hentry
    simp only [hold, Node.ofToml, Node.over, Option.getD_some] at hentry
    refine ⟨_, hentry, isTable_entriesOver _ htable, ?_⟩
    rw [entry?_over_ofMembers origin hinner hinnerProper]
    simp only [documentUrl?, hservice]
    cases hlookup : inner.lookup "url" with
    | none => exact hurl
    | some w =>
      obtain ⟨s, rfl⟩ := htext w hlookup
      simp only [Node.ofToml, Node.over, Option.getD_some]

/-- What a file says of the URL: nothing if there is no file, and otherwise what its document
says. -/
inductive FileGives (fs : Files) (path : String) : Option String → Prop where
  | missing (here : fs.read? path = none)
    (beside : ∀ path', Files.extend? path fileExtension = some path' → fs.read? path' = none) :
    FileGives fs path none
  | document {bytes : Text.Bytes} {cs : List Char} {ms : Toml.Members}
    (content : fs.read? path = some bytes) (isText : Text.Utf8.decode? bytes = some cs)
    (isToml : Toml.parse (String.ofList cs) = .ok ms) (isPlain : IsPlainDocument ms) :
    FileGives fs path (documentUrl? ms)

/-- **A file that gives a URL has this URL replace the one before it**, and one that gives none
leaves it. -/
theorem exists_fileLayer (room : Room) {fs : Files} {path : String} {given : Option String}
    (h : FileGives fs path given) :
    ∃ layer, fileLayer fs path = .ok layer ∧ ∀ n url, n.GivesUrl url →
      ∃ n', layer.over room n = .ok n' ∧ n'.GivesUrl (given.getD url) := by
  cases h with
  | missing here beside =>
    have hfind : findFile fs path = none := by
      simp only [findFile, here]
      cases hpath : Files.extend? path fileExtension with
      | none => rfl
      | some path' =>
        simp only [Option.bind_eq_bind, Option.bind_some, beside path' hpath, Option.bind_none]
    exact ⟨[], by simp only [fileLayer, hfind], fun n url hn => ⟨n, rfl, hn⟩⟩
  | @document bytes cs ms content isText isToml isPlain =>
    refine ⟨_, by simp only [fileLayer, findFile, content, isText, isToml]; rfl,
      fun n url hn => ?_⟩
    exact ⟨_, over_fileLayer isPlain.keys n,
      givesUrl_document hn isPlain (Toml.parse_isProper isToml)⟩

/-! ### The environment -/

/-- The variable is about the service, in whatever case its name is written. -/
def concernsService (x : String × String) : Bool :=
  "write_tracer_service".toList.isPrefixOf (lower x.1).toList

/-- The variable gives the URL of the service. -/
def isUrlVariable (x : String × String) : Bool :=
  lower x.1 = "write_tracer_service_url"

/-- The environment is **clear**: it gives the URL at most once, and says nothing else of the
service. -/
structure Environment.IsClear (env : Environment) : Prop where
  once : (env.filter isUrlVariable).length ≤ 1
  nothingElse : ∀ x ∈ env, concernsService x → isUrlVariable x

/-- The environment is **unindexed**: no name of a variable of the client has a bracket in it, from
which an index could be read. -/
def Environment.IsUnindexed (env : Environment) : Prop :=
  ∀ x ∈ env, variableKey? x.1 ≠ none → '[' ∉ x.1.toList

/-- The URL that the environment gives. -/
def Environment.url? (env : Environment) : Option String :=
  (env.find? isUrlVariable).map Prod.snd

/-- The key that the variable with the URL stands for. -/
private theorem variableKey?_of_isUrlVariable {x : String × String} (h : isUrlVariable x) :
    variableKey? x.1 = some "service.url" := by
  rw [isUrlVariable, decide_eq_true_eq] at h
  rw [variableKey?, h]
  decide

/-- What is put behind a key is put into the part under the key. -/
private theorem put_key (new : Node) (k : String) {steps : List Step} (h : steps ≠ []) (n : Node) :
    Node.put room new (.key k :: steps) n =
      (Node.put room new steps ((n.entry? (lower k)).getD .nothing)).bind
        fun part => .ok (n.changeEntry k fun _ => part) := by
  rw [Node.put]
  · rfl
  · exact h

/-- The URL of a variable replaces the one before it. -/
theorem givesUrl_put (room : Room) {n : Node} {url : String} (h : n.GivesUrl url) (s : String) :
    ∃ n', Node.put room (.scalar (.text s)) (path "service.url") n = .ok n' ∧ n'.GivesUrl s := by
  obtain ⟨service, hservice, -, -⟩ := h
  have hpath : path "service.url" = [.key "service", .key "url"] := by decide
  have hlower : lower "service" = "service" := by decide
  let service' := service.changeEntry "url" fun e => Node.over e (.scalar (.text s))
  have hput : Node.put room (.scalar (.text s)) (path "service.url") n =
      .ok (n.changeEntry "service" fun _ => service') := by
    rw [hpath, put_key _ _ (List.cons_ne_nil _ _), hlower, hservice]
    rfl
  refine ⟨_, hput, service', ?_, isTable_changeEntry .., ?_⟩
  · rw [entry?_changeEntry, if_pos hlower.symm]
  · rw [entry?_changeEntry, if_pos (by decide), Node.over]
    rintro _ _ ⟨⟩

/-- Only characters of ASCII have a small form by which they are another character. -/
private theorem toLower_eq_self_or_ascii (c : Char) :
    c.toLower = c ∨ ∃ n : Fin 128, c = Char.ofNat n := by
  by_cases hupper : c.val ≥ 'A'.val ∧ c.val ≤ 'Z'.val
  · exact .inr ⟨⟨c.toNat, Nat.lt_of_le_of_lt hupper.2 (by decide)⟩, (Char.ofNat_toNat c).symm⟩
  · exact .inl (dif_neg hupper)

/-- Small letters have themselves as their small form. -/
private theorem lowerChar_of_mem_lowerChar {c d : Char} (h : d ∈ lowerChar c) :
    lowerChar d = [d] := by
  unfold lowerChar at h
  split_ifs at h with hkelvin hdotted
  · rw [List.mem_singleton.1 h]
    decide
  · obtain rfl | rfl : d = 'i' ∨ d = '\u0307' := by simpa using h
    · decide
    · decide
  · rw [List.mem_singleton.1 h]
    obtain hsame | ⟨n, rfl⟩ := toLower_eq_self_or_ascii c
    · rw [hsame, lowerChar, if_neg hkelvin, if_neg hdotted, hsame]
    · have hascii : ∀ n : Fin 128,
          lowerChar (Char.ofNat n).toLower = [(Char.ofNat n).toLower] := by
        decide
      exact hascii n

/-- The key of a variable is what follows the start that is common to all of them. -/
private theorem exists_rest_of_variableKey? {name key : String} (h : variableKey? name = some key) :
    ∃ rest, (lower name).toList = variableStart ++ rest ∧
      key.toList = rest.map fun c => if c = '_' then '.' else c := by
  simp only [variableKey?] at h
  split at h
  · next hstart =>
    obtain ⟨rest, hrest⟩ := List.isPrefixOf_iff_prefix.1 hstart
    rw [Option.some.injEq] at h
    subst h
    refine ⟨rest, hrest.symm, ?_⟩
    rw [String.toList_ofList, ← hrest, List.drop_left]
  · cases h

private theorem lowerChar_of_variableKey? {name key : String} (hkey : variableKey? name = some key)
    {c : Char} (hc : c ∈ key.toList) : lowerChar c = [c] := by
  obtain ⟨rest, hname, hrest⟩ := exists_rest_of_variableKey? hkey
  rw [hrest] at hc
  obtain ⟨d, hd, rfl⟩ := List.mem_map.1 hc
  split
  · decide
  · have hsmall : d ∈ (lower name).toList := hname ▸ List.mem_append_right variableStart hd
    rw [lower, String.toList_ofList] at hsmall
    obtain ⟨e, -, hde⟩ := List.mem_flatMap.1 hsmall
    exact lowerChar_of_mem_lowerChar hde

/-- A key that starts with the service is that of a variable which is about the service. -/
private theorem concernsService_of_key {x : String × String} {key : String}
    (hkey : variableKey? x.1 = some key) (h : "service".toList <+: key.toList) :
    concernsService x = true := by
  obtain ⟨rest, hname, hrest⟩ := exists_rest_of_variableKey? hkey
  obtain ⟨after, hafter⟩ := h
  rw [hrest] at hafter
  obtain ⟨start, after', rfl, hstart, -⟩ := List.map_eq_append_iff.1 hafter.symm
  -- There is no point in the word, so that no underscore has become one.
  have hsame : ∀ c ∈ start, (if c = '_' then '.' else c) = c := by
    intro c hc
    have hmem : (if c = '_' then '.' else c) ∈ "service".toList :=
      hstart ▸ List.mem_map_of_mem hc
    split
    · next hunderscore =>
      rw [if_pos hunderscore] at hmem
      exact absurd hmem (by decide)
    · rfl
  rw [List.map_congr_left hsame, List.map_id'] at hstart
  have hword : "write_tracer_service".toList = variableStart ++ "service".toList := by decide
  rw [concernsService, List.isPrefixOf_iff_prefix, hname, hstart, hword, ← List.append_assoc]
  exact List.prefix_append ..

/-- A variable that is not about the service leads to another entry. -/
private theorem exists_path_of_variableKey? {x : String × String} {key : String}
    (hkey : variableKey? x.1 = some key) (h : concernsService x = false) :
    ∃ first steps, path key = .key first :: steps ∧ lower first ≠ "service" := by
  obtain ⟨first, steps, hpath, hstart⟩ := exists_path key
  refine ⟨first, steps, hpath, fun hfirst => ?_⟩
  have hlower : lower first = first := by
    rw [lower, flatMap_lowerChar fun c hc => lowerChar_of_variableKey? hkey (hstart.subset hc),
      String.ofList_toList]
  rw [← hlower, hfirst] at hstart
  rw [concernsService_of_key hkey hstart] at h
  cases h

private theorem exists_of_bind_eq_ok {α β : Type} {x : Except Crash α} {f : α → Except Crash β}
    {b : β} (h : x.bind f = .ok b) : ∃ a, x = .ok a ∧ f a = .ok b := by
  cases x with
  | error crash => cases h
  | ok a => exact ⟨a, rfl, h⟩

/-- What is put at a path changes no other entry than the first of the path. -/
theorem entry?_put {new : Node} {first : String} {steps : List Step} {n n' : Node}
    {k : String} (hput : Node.put room new (.key first :: steps) n = .ok n') (h : lower first ≠ k) :
    n'.entry? k = n.entry? k := by
  cases steps with
  | nil =>
    rw [Node.put, Except.ok.injEq] at hput
    rw [← hput, entry?_changeEntry, if_neg (Ne.symm h)]
  | cons step steps =>
    rw [put_key _ _ (List.cons_ne_nil step steps)] at hput
    obtain ⟨part, -, hpart⟩ := exists_of_bind_eq_ok hput
    rw [Except.ok.injEq] at hpart
    rw [← hpart, entry?_changeEntry, if_neg (Ne.symm h)]

/-- What a variable makes of a tree. -/
private def putVariable (room : Room) (x : String × String) (n : Node) : Except Crash Node :=
  match variableKey? x.1 with
  | some key => Node.put room (.scalar (.text x.2)) (path key) n
  | none => .ok n

/-- The settings of the environment are laid over a tree variable by variable. -/
private theorem over_environmentLayer (x : String × String) (env : Environment) (n : Node) :
    (environmentLayer (x :: env)).over room n =
      (putVariable room x n).bind ((environmentLayer env).over room) := by
  simp only [environmentLayer, List.filterMap_cons, putVariable]
  cases variableKey? x.1 <;> rfl

/-- A variable for the URL of the service gives it. -/
private theorem givesUrl_putVariable {x : String × String} (h : isUrlVariable x) {n n' : Node}
    {url : String} (hn : n.GivesUrl url) (hput : putVariable room x n = .ok n') :
    n'.GivesUrl x.2 := by
  obtain ⟨n₁, hput', hn₁⟩ := givesUrl_put room hn x.2
  simp only [putVariable, variableKey?_of_isUrlVariable h] at hput
  obtain rfl : n' = n₁ := Except.ok.inj (hput.symm.trans hput')
  exact hn₁

/-- A variable that is not about the service leaves the URL. -/
private theorem givesUrl_putVariable_of_other {x : String × String} (h : concernsService x = false)
    {n n' : Node} {url : String} (hn : n.GivesUrl url) (hput : putVariable room x n = .ok n') :
    n'.GivesUrl url := by
  cases hkey : variableKey? x.1 with
  | none =>
    simp only [putVariable, hkey, Except.ok.injEq] at hput
    exact hput ▸ hn
  | some key =>
    obtain ⟨first, steps, hpath, hfirst⟩ := exists_path_of_variableKey? hkey h
    simp only [putVariable, hkey, hpath] at hput
    exact hn.of_entry?_eq (entry?_put hput hfirst)

/-- **The URL of the environment replaces the one of the settings before it**, and other variables
leave it. -/
theorem givesUrl_environment {env : Environment} (h : env.IsClear) {n n' : Node} {url : String}
    (hn : n.GivesUrl url) (hover : (environmentLayer env).over room n = .ok n') :
    n'.GivesUrl (env.url?.getD url) := by
  obtain ⟨honce, helse⟩ := h
  induction env generalizing n url with
  | nil =>
    obtain rfl : n = n' := Except.ok.inj hover
    exact hn
  | cons x env ih =>
    obtain ⟨hx, helse⟩ := List.forall_mem_cons.1 helse
    rw [over_environmentLayer] at hover
    obtain ⟨n₁, hput, hover⟩ := exists_of_bind_eq_ok hover
    cases hurl : isUrlVariable x with
    | true =>
      -- No variable after this one gives a URL, so that the one put here stays.
      rw [List.filter_cons_of_pos hurl, List.length_cons] at honce
      have hfilter : env.filter isUrlVariable = [] :=
        List.length_eq_zero_iff.1 (Nat.le_zero.1 (Nat.le_of_succ_le_succ honce))
      have hnone : Environment.url? env = none := by
        rw [Environment.url?, ← List.head?_filter, hfilter, List.head?_nil, Option.map_none]
      have hrest := ih (givesUrl_putVariable hurl hn hput) hover
        (by rw [hfilter]; exact Nat.zero_le 1) helse
      rw [hnone] at hrest
      rw [Environment.url?, List.find?_cons_of_pos hurl]
      exact hrest
    | false =>
      have hneg : ¬isUrlVariable x := by rw [hurl]; decide
      have hother : concernsService x = false := by
        rw [Bool.eq_false_iff]
        exact fun h => hneg (hx h)
      rw [List.filter_cons_of_neg hneg] at honce
      rw [Environment.url?, List.find?_cons_of_neg hneg]
      exact ih (givesUrl_putVariable_of_other hother hn hput) hover honce helse

/-! ### Settings without an index -/

/-- What is put at a path without an index is put there, whatever room there is for lists. -/
private theorem exists_put (room : Room) (new : Node) {steps : List Step}
    (h : ∀ i, .index i ∉ steps) (n : Node) :
    ∃ n', Node.put room new steps n = .ok n' := by
  induction steps generalizing n with
  | nil => exact ⟨_, rfl⟩
  | cons step steps ih =>
    cases step with
    | index i => exact absurd List.mem_cons_self (h i)
    | key k =>
      obtain rfl | hsteps := eq_or_ne steps []
      · exact ⟨_, rfl⟩
      · obtain ⟨part, hpart⟩ :=
          ih (fun i hi => h i (List.mem_cons_of_mem _ hi)) ((n.entry? (lower k)).getD .nothing)
        rw [put_key _ _ hsteps, hpart]
        exact ⟨_, rfl⟩

/-- The settings of a layer are **unindexed**: no path leads into a list. -/
def Layer.IsUnindexed (l : Layer) : Prop :=
  ∀ x ∈ l, ∀ i, .index i ∉ x.1

/-- **Settings without an index are laid over every tree.** -/
theorem Layer.IsUnindexed.exists_over {l : Layer} (h : l.IsUnindexed) (room : Room) (n : Node) :
    ∃ n', l.over room n = .ok n' := by
  induction l generalizing n with
  | nil => exact ⟨n, rfl⟩
  | cons x l ih =>
    obtain ⟨steps, new⟩ := x
    obtain ⟨hsteps, hl⟩ := List.forall_mem_cons.1 h
    obtain ⟨n₁, hput⟩ := exists_put room new hsteps n
    obtain ⟨n₂, hover⟩ := ih hl n₁
    refine ⟨n₂, ?_⟩
    simp only [Layer.over, List.foldlM_cons, hput]
    exact hover

private theorem index_notMem_of_stepsUpTo {n : Nat} {cs : List Char} {steps : List Step}
    (hsteps : stepsUpTo n cs = some steps) (h : '[' ∉ cs) (i : Int) : .index i ∉ steps := by
  induction n generalizing cs steps with
  | zero =>
    cases cs with
    | nil => cases hsteps; exact List.not_mem_nil
    | cons c cs => simp [stepsUpTo] at hsteps
  | succ n ih =>
    cases cs with
    | nil => cases hsteps; exact List.not_mem_nil
    | cons c cs =>
      obtain ⟨hc, hcs⟩ := List.ne_and_not_mem_of_not_mem_cons h
      by_cases hpoint : c = '.'
      · subst hpoint
        simp only [stepsUpTo] at hsteps
        split_ifs at hsteps
        obtain ⟨steps, hrest, rfl⟩ := Option.map_eq_some_iff.1 hsteps
        have hrest := ih hrest fun hmem => hcs ((List.dropWhile_sublist _).subset hmem)
        simpa using hrest
      · rw [stepsUpTo_eq_none hpoint (Ne.symm hc)] at hsteps
        cases hsteps

/-- A key without brackets has no index in its path. -/
theorem index_notMem_path {key : String} (h : '[' ∉ key.toList) (i : Int) :
    .index i ∉ path key := by
  have hkey : .index i ∉ [Step.key key] := by simp
  simp only [path, path?]
  split
  · exact hkey
  · cases hsteps : stepsUpTo key.toList.length (key.toList.dropWhile isNameChar) with
    | none => exact hkey
    | some steps =>
      have hrest := index_notMem_of_stepsUpTo hsteps
        (fun hmem => h ((List.dropWhile_sublist _).subset hmem)) i
      simpa using hrest

/-- The small form of a character that is no bracket has no bracket in it. -/
private theorem bracket_notMem_lowerChar {c : Char} (h : c ≠ '[') : '[' ∉ lowerChar c := by
  unfold lowerChar
  split_ifs
  · decide
  · decide
  · rw [List.mem_singleton]
    obtain hsame | ⟨n, rfl⟩ := toLower_eq_self_or_ascii c
    · rw [hsame]
      exact h.symm
    · have hascii : ∀ n : Fin 128, Char.ofNat n ≠ '[' → '[' ≠ (Char.ofNat n).toLower := by decide
      exact hascii n h

/-- The key of a variable has no bracket that is not in the name. -/
private theorem bracket_notMem_key {name key : String} (hkey : variableKey? name = some key)
    (h : '[' ∉ name.toList) : '[' ∉ key.toList := by
  obtain ⟨rest, hname, hrest⟩ := exists_rest_of_variableKey? hkey
  rw [hrest]
  intro hmem
  obtain ⟨c, hc, hbracket⟩ := List.mem_map.1 hmem
  split_ifs at hbracket with hunderscore
  · exact absurd hbracket (by decide)
  subst hbracket
  have hlower : '[' ∈ (lower name).toList := hname ▸ List.mem_append_right variableStart hc
  rw [lower, String.toList_ofList] at hlower
  obtain ⟨c, hc, hbracket⟩ := List.mem_flatMap.1 hlower
  exact bracket_notMem_lowerChar (fun heq => h (heq ▸ hc)) hbracket

/-- The settings of an unindexed environment are unindexed. -/
private theorem isUnindexed_environmentLayer {env : Environment} (h : env.IsUnindexed) :
    (environmentLayer env).IsUnindexed := by
  intro x hx
  obtain ⟨⟨name, v⟩, hmem, hsetting⟩ := List.mem_filterMap.1 hx
  obtain ⟨key, hkey, rfl⟩ := Option.map_eq_some_iff.1 hsetting
  exact index_notMem_path (bracket_notMem_key hkey (h _ hmem (by simp [hkey])))

/-- Once the file has been laid over the defaults, only the environment is left. -/
private theorem configWith_of_over {env : Environment} {file : Layer} {n n₁ : Node}
    (hdefaults : defaults.over room .empty = .ok n) (hfile : file.over room n = .ok n₁) :
    configWith room env file =
      ((environmentLayer env).over room n₁).bind fun n => .ok (configOf n) := by
  simp only [configWith, hdefaults]
  change (file.over room n).bind _ = _
  rw [hfile]
  rfl

/-- **Without an index nothing crashes**: if neither the file nor the environment has one, something
comes of loading a configuration, whatever room there is for lists. -/
theorem exists_loadFrom {h : Host} {path : String}
    (hfile : ∀ l, fileLayer h.files path = .ok l → l.IsUnindexed)
    (henv : h.environment.IsUnindexed) : ∃ loaded, loadFrom room h path = .ok loaded := by
  cases hlayer : fileLayer h.files path with
  | error f => exact ⟨.error f, by simp only [loadFrom, hlayer]⟩
  | ok l =>
    obtain ⟨n, hdefaults, -⟩ := givesUrl_defaults room
    obtain ⟨n₁, hlaid⟩ := (hfile l hlayer).exists_over room n
    obtain ⟨n₂, hover⟩ := (isUnindexed_environmentLayer henv).exists_over room n₁
    refine ⟨configOf n₂, ?_⟩
    simp only [loadFrom, hlayer, configWith_of_over hdefaults hlaid, hover]
    rfl

/-! ### The main statement -/

/-- **The environment goes before the file, and the file before the default.** If the file is plain
or missing, and the environment is clear, then the URL of every configuration that is loaded is the
one that the environment gives, as it stands there, or else the one of the file, or else the
default, and nothing else that is set has a part in it. A configuration is loaded whenever no name
of a variable has an index. A file that is a text and no TOML is a fault, whatever the environment
says. -/
theorem loadFrom_precedence (room : Room) (h : Host) (path : String) :
    (∀ given, FileGives h.files path given → h.environment.IsClear →
      (∀ loaded, loadFrom room h path = .ok loaded →
        loaded = .ok ⟨⟨(h.environment.url? <|> given).getD defaultServiceUrl⟩⟩) ∧
      (h.environment.IsUnindexed → loadFrom room h path =
        .ok (.ok ⟨⟨(h.environment.url? <|> given).getD defaultServiceUrl⟩⟩))) ∧
    ∀ bytes cs place, h.files.read? path = some bytes → Text.Utf8.decode? bytes = some cs →
      Toml.parse (String.ofList cs) = .error place →
      ∀ env, loadFrom room { h with environment := env } path =
        .ok (.error (.illFormed place.line place.column)) := by
  constructor
  · intro given hfile henv
    obtain ⟨layer, hlayer, hgives⟩ := exists_fileLayer room hfile
    obtain ⟨n, hdefaults, hn⟩ := givesUrl_defaults room
    obtain ⟨n', hlaid, hn'⟩ := hgives _ _ hn
    have hload : loadFrom room h path =
        ((environmentLayer h.environment).over room n').bind fun n => .ok (configOf n) := by
      simp only [loadFrom, hlayer, configWith_of_over hdefaults hlaid]
    have hurl : (h.environment.url? <|> given).getD defaultServiceUrl =
        h.environment.url?.getD (given.getD defaultServiceUrl) := by
      cases h.environment.url? <;> rfl
    rw [hload, hurl]
    constructor
    · intro loaded hloaded
      obtain ⟨n'', hover, ⟨⟩⟩ := exists_of_bind_eq_ok hloaded
      exact (givesUrl_environment henv hn' hover).configOf
    · intro hunindexed
      obtain ⟨n'', hover⟩ := (isUnindexed_environmentLayer hunindexed).exists_over room n'
      rw [hover, ← (givesUrl_environment henv hn' hover).configOf]
      rfl
  · intro bytes cs place hread hdecode hparse env
    simp only [loadFrom, fileLayer, findFile, hread, hdecode, hparse]

/-- The text of a plain document. -/
def plainText : String := "retries = 3\n[service]\nurl = \"http://a\"\n"

/-- A host with one file, whose name is a single letter. -/
def hostWith (text : String) (env : Environment) : Host :=
  ⟨⟨[], [(["c"], Text.Utf8.encode text.toList)]⟩, env, "/root"⟩

private theorem read?_hostWith (text : String) (env : Environment) :
    (hostWith text env).files.read? "c" = some (Text.Utf8.encode text.toList) := by
  have hparts : Files.parts "c" = ["c"] := by cbv
  have hroot : Files.isAbsolute "c" = false := by cbv
  rw [Files.read?, hparts, hroot]
  rfl

private theorem fileGives_plainText (env : Environment) :
    FileGives (hostWith plainText env).files "c" (some "http://a") := by
  have hparse : Toml.parse (String.ofList plainText.toList) = .ok [("retries", .integer 3),
      ("service", .table .header [("url", .text "http://a")])] := by
    cbv
  refine .document (read?_hostWith plainText env) (Text.Utf8.decode?_encode _) hparse ⟨?_, ?_⟩
  · refine List.forall_mem_cons.2 ⟨?_, List.forall_mem_singleton.2 ?_⟩
    · exact isPlainName_of_all rfl
    · exact isPlainName_of_all rfl
  · rintro v ⟨⟩
    refine ⟨_, _, rfl, List.forall_mem_singleton.2 (isPlainName_of_all rfl), ?_⟩
    rintro w ⟨⟩
    exact ⟨_, rfl⟩

/-- The URL of a plain file, an empty one of the environment in its place, and a file that is no
TOML. -/
theorem loadFrom_precedence_plainText :
    loadFrom .addressable (hostWith plainText [("WRITE_TRACER_LOG", "7")]) "c" =
        .ok (.ok ⟨⟨"http://a"⟩⟩) ∧
      loadFrom .addressable
        (hostWith plainText [("WRITE_TRACER_LOG", "7"), ("write_tracer_Service_URL", "")]) "c" =
        .ok (.ok ⟨⟨""⟩⟩) ∧
      loadFrom .addressable (hostWith "url = x" [("WRITE_TRACER_SERVICE_URL", "http://b")]) "c" =
        .ok (.error (.illFormed 1 7)) := by
  refine ⟨?_, ?_, ?_⟩
  · exact ((loadFrom_precedence _ _ _).1 _ (fileGives_plainText _) ⟨by decide, by decide⟩).2
      (by unfold Environment.IsUnindexed; decide)
  · exact ((loadFrom_precedence _ _ _).1 _ (fileGives_plainText _) ⟨by decide, by decide⟩).2
      (by unfold Environment.IsUnindexed; decide)
  · have hparse : Toml.parse (String.ofList "url = x".toList) = .error ⟨1, 7⟩ := by cbv
    exact (loadFrom_precedence _ (hostWith "url = x" []) "c").2 _ _ _ (read?_hostWith _ _)
      (Text.Utf8.decode?_encode _) hparse [("WRITE_TRACER_SERVICE_URL", "http://b")]

end ProcTrace.Settings
