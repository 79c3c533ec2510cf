import Mathlib
import OperationDocuments.Proofs.FileLoads
import OperationDocuments.Proofs.HandedOut

/-! # Reloading printed documents

What is loaded is printed and loaded again. The printed text has no import directive in front, and
a `#import` further down, in a description for instance, is none. What was merged from other
modules is local now, and names are looked up and repeated as before; so nothing is resolved any
more and the operations fall apart in the same way. That the printer writes what the parser reads
is presupposed, for the document in question only. -/
namespace OperationDocuments

open Loading

def Definition.Parsed (x : Definition) : Prop :=
  ∃ text name d, Document.parse text name = .ok d ∧ x ∈ d.definitions

namespace Document

/-- Not empty, and made of parsed definitions, of which each may come from a text of its own. -/
def Parsed (d : Document) : Prop := d.definitions ≠ [] ∧ ∀ x ∈ d.definitions, x.Parsed

/-- The printed document parses to the definitions that were printed, with a line feed at its end or
without, and it begins neither like a comment nor with the end of a line. -/
def Reprints (d : Document) : Prop :=
  (∀ ending ∈ ["", "\n"], ∃ reread,
    Document.parse (d.print ++ ending) none = .ok reread ∧ reread.definitions = d.definitions) ∧
  ∃ first, d.print.toList.head? = some first ∧ first ∉ ['#', '\r', '\n']

/-- The definitions of each document, under its name. -/
def contents (entries : Assoc String Document) : Assoc String (List Definition) :=
  entries.map fun entry => (entry.1, entry.2.definitions)

end Document

namespace Resolver

def nowhere : Resolver := fun reference _ => throw (.unresolved reference none)

def FindsParsed (resolve : Resolver) : Prop :=
  ∀ reference origin d, (resolve reference origin).Returns d → ∀ x ∈ d.definitions, x.Parsed

end Resolver

/-! ## Where definitions come from -/

theorem Import.exists_returns_of_mem {resolve : String → Loading LoadError Document}
    {references : List String} {documents : List Document} {d : Document}
    (all : List.Forall₂ (fun reference d => (resolve reference).Returns d) references documents)
    (mem : d ∈ documents) : ∃ reference, (resolve reference).Returns d := by
  induction all with
  | nil => cases mem
  | cons returned _ ih =>
    rcases List.mem_cons.mp mem with rfl | mem
    · exact ⟨_, returned⟩
    · exact ih mem

theorem Resolver.parsed_of_load {resolve : Resolver} {text : String} {name : Option String}
    {loaded : Loaded} (finds : resolve.FindsParsed)
    (ok : (resolve.load text name).Returns loaded) : loaded.document.Parsed := by
  obtain ⟨parsed, -, own, -, expands, -⟩ := returns_load.mp ok
  have reads : Document.parse text name = .ok parsed := mapError_eq_ok_iff.mp own
  obtain ⟨references, documents, -, all, document⟩ := Import.returns_expand.mp expands
  rw [document]
  refine ⟨?_, fun x mem => ?_⟩
  · exact List.append_ne_nil_of_left_ne_nil (Document.definitions_ne_nil_of_parse reads) _
  · rcases List.mem_append.mp mem with mem | mem
    · exact ⟨text, name, parsed, reads, mem⟩
    · obtain ⟨f, chosen, rfl⟩ := List.mem_map.mp mem
      obtain ⟨d, among, stands⟩ := List.mem_flatMap.mp (Import.mem_of_mem_firsts chosen)
      obtain ⟨reference, returned⟩ := Import.exists_returns_of_mem all among
      exact finds reference name d returned _ (Document.mem_fragments.mp stands)

/-- A module is loaded like a text, so what is found behind references to modules was parsed. -/
theorem Modules.findsParsed_resolveWithin (m : Modules) (stack : List String) :
    (m.resolveWithin stack).FindsParsed := by
  intro reference origin d found
  obtain ⟨key, -, opened, inner, below, -, deeper, rfl⟩ := returns_resolveWithin.mp found
  rw [loadWithin_eq] at deeper
  exact (Resolver.parsed_of_load (findsParsed_resolveWithin m (stack ++ [key.1])) deeper).2
termination_by (m.keys.filter (!stack.contains ·)).length
decreasing_by exact length_closed_lt key.2 opened

theorem LoadCall.findsParsed_resolver (c : LoadCall)
    (h : ∀ resolve text name, c = .resolving resolve text name → resolve.FindsParsed) :
    c.resolver.FindsParsed := by
  cases c with
  | load imports w text name => exact Modules.findsParsed_resolveWithin _ []
  | loadFile imports w path => exact Modules.findsParsed_resolveWithin _ []
  | resolving resolve text name => exact h resolve text name rfl

namespace Document

variable {d part : Document} {name : String}

theorem IsSeparation.parsed (h : d.IsSeparation name part) (whole : d.Parsed) : part.Parsed := by
  obtain ⟨first, more, definitions, -⟩ := h.headed
  have nonempty : part.definitions ≠ [] := by
    rw [definitions]
    exact List.cons_ne_nil first more
  refine ⟨nonempty, fun x mem => ?_⟩
  obtain ⟨a, ⟨before, after, all, -⟩, -⟩ := (h.exact x).mp mem
  refine whole.2 x ?_
  rw [all]
  exact List.mem_append_right before List.mem_cons_self

theorem IsSeparation.not_lacksName (h : d.IsSeparation name part)
    (named : ∀ o ∈ d.operations, o.isAnonymous = false) : ¬part.LacksName := by
  refine not_lacksName_iff.mpr (Or.inr fun o mem => named o (mem_operations.mpr ?_))
  obtain ⟨a, ⟨before, after, all, -⟩, -⟩ := (h.exact (.operation o)).mp (mem_operations.mp mem)
  rw [all]
  exact List.mem_append_right before List.mem_cons_self

end Document

theorem Loaded.SplitFrom.isSeparation_of_mem {parsed : Document} {whole : Loaded}
    {entry : String × Document} (h : SplitFrom parsed whole) (mem : entry ∈ whole.operations) :
    whole.document.IsSeparation entry.1 entry.2 := by
  by_cases several : 1 < parsed.countOperations
  · rw [h.operations_eq_separateAll several] at mem
    have distinct := Document.nodup_keys_separateAll whole.document
    exact Document.isSeparation_of_find? (Assoc.find?_of_mem distinct mem)
  · rw [h.operations_eq_nil (by omega)] at mem
    cases mem

theorem Loaded.SplitFrom.isAnonymous_of_mem {parsed : Document} {whole : Loaded}
    {entry : String × Document} (h : SplitFrom parsed whole) (mem : entry ∈ whole.operations) :
    ∀ o ∈ whole.document.operations, o.isAnonymous = false := by
  obtain ⟨parts, split, operations⟩ := h.split
  rcases Document.split_eq_ok_iff.mp split with ⟨-, rfl⟩ | ⟨-, named, -⟩
  · rw [operations] at mem
    cases mem
  · exact named

/-! ## The same document under another name -/

namespace Document

variable {d : Document} {parts : Logged (Assoc String Document)}

def renamed (source : String) (entries : Assoc String Document) : Assoc String Document :=
  entries.map fun entry => (entry.1, { entry.2 with source := source })

theorem contents_renamed (source : String) (entries : Assoc String Document) :
    contents (renamed source entries) = contents entries := by
  rw [contents, renamed, List.map_map]
  rfl

theorem separate?_renamed (d : Document) (source : String) (map : ReferenceMap) (name : String) :
    separate? { d with source := source } map name =
      (d.separate? map name).map fun part => { part with source := source } := by
  have same : find? { d with source := source } name = d.find? name := rfl
  unfold separate?
  rw [same]
  cases d.find? name <;> rfl

theorem separateInto_renamed (d : Document) (source : String) (map : ReferenceMap)
    (done : Assoc String Document) (name : String) :
    (separateInto { d with source := source } map (renamed source done) name).value =
      renamed source (d.separateInto map done name).value := by
  unfold separateInto
  rw [separate?_renamed]
  cases d.separate? map name with
  | none => rfl
  | some part =>
    exact Assoc.insert_map (fun part : Document => { part with source := source }) done name part

theorem separateAll_renamed (d : Document) (source : String) :
    (separateAll { d with source := source }).value = renamed source d.separateAll.value := by
  have run : ∀ (names : List String) (done : Assoc String Document),
      (names.foldlM (separateInto { d with source := source } d.referenceMap)
        (renamed source done)).value =
        renamed source (names.foldlM (d.separateInto d.referenceMap) done).value := by
    intro names
    induction names with
    | nil => exact fun _ => rfl
    | cons name more ih =>
      intro done
      rw [List.foldlM_cons, List.foldlM_cons, Logged.value_bind, Logged.value_bind,
        separateInto_renamed]
      exact ih _
  exact run d.operationNames []

theorem exists_split_renamed {old : Option String} (split : d.split old = .ok parts)
    (source : String) (new : Option String) :
    ∃ others, Document.split { d with source := source } new = .ok others ∧
      others.value = renamed source parts.value := by
  rcases split_eq_ok_iff.mp split with ⟨few, rfl⟩ | ⟨several, named, rfl⟩
  · exact ⟨pure [], split_eq_ok_iff.mpr (Or.inl ⟨few, rfl⟩), rfl⟩
  · exact ⟨_, split_eq_ok_of_named new several named, separateAll_renamed d source⟩

end Document

/-! ## Nothing to resolve -/

namespace Document.Reprints

variable {d : Document} {ending : String}

theorem of_parse {text : String} (printed : d.print = text)
    (bare : Document.parse text none = .ok d) (ended : Document.parse (text ++ "\n") none = .ok d)
    (begins : ∃ first, text.toList.head? = some first ∧ first ∉ ['#', '\r', '\n']) :
    d.Reprints := by
  subst printed
  refine ⟨fun ending ends => ⟨d, ?_, rfl⟩, begins⟩
  simp only [List.mem_cons, List.not_mem_nil, or_false] at ends
  rcases ends with rfl | rfl
  · rw [String.append_empty]
    exact bare
  · exact ended

theorem parse (h : d.Reprints) (ends : ending ∈ ["", "\n"]) (name : Option String) :
    Document.parse (d.print ++ ending) name = .ok { d with source := sourceName name } := by
  obtain ⟨reread, parsed, same⟩ := h.1 ending ends
  rw [parse_eq, parsed, Except.map, ← same]

theorem scan (h : d.Reprints) (ending : String) : Import.scan (d.print ++ ending) = .ok [] := by
  obtain ⟨-, first, begins, plain⟩ := h
  obtain ⟨rest, begins⟩ := List.head?_eq_some_iff.mp begins
  have longer : (d.print ++ ending).toList = first :: (rest ++ ending.toList) := by
    rw [String.toList_append, begins, List.cons_append]
  exact Import.scan_eq_nil longer plain

end Document.Reprints

namespace Resolver

theorem load_eq_nowhere {text : String} (scanned : Import.scan text = .ok []) (resolve : Resolver)
    (name : Option String) : resolve.load text name = nowhere.load text name := by
  have alone : ∀ (d : Document) (follow : String → Loading LoadError Document),
      Import.expand text d follow = pure d := by
    intro d follow
    rw [Import.expand, scanned, ofExcept_ok_bind]
    rfl
  simp only [load, alone]

/-- A printed document loads with nothing to resolve, into itself under the name of the text. -/
theorem load_printed {d : Document} {old : Option String} {parts : Logged (Assoc String Document)}
    {ending : String} (prints : d.Reprints) (ends : ending ∈ ["", "\n"])
    (split : d.split old = .ok parts) (name : Option String) :
    ∃ reloaded,
      (∀ resolve : Resolver, (resolve.load (d.print ++ ending) name).Returns reloaded ∧
        resolve.load (d.print ++ ending) name = nowhere.load (d.print ++ ending) name) ∧
      reloaded.imports = [] ∧ reloaded.document.definitions = d.definitions ∧
      Document.contents reloaded.operations = Document.contents parts.value := by
  have scanned := prints.scan ending
  have parsed : Modules.parse (d.print ++ ending) name =
      .ok { d with source := Document.sourceName name } :=
    mapError_eq_ok_iff.mpr (prints.parse ends name)
  obtain ⟨others, separated, same⟩ := Document.exists_split_renamed split
    (Document.sourceName name) (some (Document.sourceName name))
  have named := Document.not_lacksName_of_split separated
  refine ⟨⟨Document.sourceName name, { d with source := Document.sourceName name }, others.value,
    []⟩, fun resolve => ⟨?_, load_eq_nowhere scanned resolve name⟩, rfl, rfl, ?_⟩
  · refine returns_load.mpr ⟨_, others, parsed, ?_, ?_, separated, scanned, rfl, rfl⟩
    · rw [Modules.checkSeveral_eq, if_neg named]
    · exact Import.returns_expand.mpr ⟨[], [], scanned, .nil, by simp [Import.firsts]⟩
  · rw [same, Document.contents_renamed]

end Resolver

/-- Whatever was loaded, its documents are made of parsed definitions, and as far as these are
printed as they are read, the printed documents load into themselves: the whole one with all its
parts, and each part by itself. Nothing is resolved then, so that every resolver will do. -/
theorem LoadCall.reloads_printed (c : LoadCall) (loaded : Loaded)
    (ok : (c.run []).Returns loaded) :
    ((∀ resolve text name, c = .resolving resolve text name → resolve.FindsParsed) →
      loaded.document.Parsed ∧ ∀ entry ∈ loaded.operations, entry.2.Parsed) ∧
    (loaded.document.Reprints → ∀ name, ∃ reloaded,
      (∀ resolve : Resolver,
        (resolve.load (loaded.document.print ++ "\n") name).Returns reloaded ∧
        resolve.load (loaded.document.print ++ "\n") name =
          Resolver.nowhere.load (loaded.document.print ++ "\n") name) ∧
      reloaded.imports = [] ∧ reloaded.document.definitions = loaded.document.definitions ∧
      Document.contents reloaded.operations = Document.contents loaded.operations) ∧
    ∀ entry ∈ loaded.operations, entry.2.Reprints → ∀ name, ∃ reloaded,
      (∀ resolve : Resolver, (resolve.load entry.2.print name).Returns reloaded ∧
        resolve.load entry.2.print name = Resolver.nowhere.load entry.2.print name) ∧
      reloaded.imports = [] ∧ reloaded.document.definitions = entry.2.definitions := by
  obtain ⟨text, -, loads⟩ := returns_run_nil.mp ok
  obtain ⟨parsed, -, splitFrom⟩ := Resolver.splitFrom_of_load loads
  have separated : ∀ entry ∈ loaded.operations, loaded.document.IsSeparation entry.1 entry.2 :=
    fun _ mem => splitFrom.isSeparation_of_mem mem
  refine ⟨fun finds => ?parsed, fun prints name => ?whole, fun entry mem prints name => ?part⟩
  case parsed =>
    have whole := Resolver.parsed_of_load (c.findsParsed_resolver finds) loads
    exact ⟨whole, fun entry mem => (separated entry mem).parsed whole⟩
  case whole =>
    obtain ⟨parts, split, operations⟩ := splitFrom.split
    rw [operations]
    exact Resolver.load_printed prints (by simp) split name
  case part =>
    have named := (separated entry mem).not_lacksName (splitFrom.isAnonymous_of_mem mem)
    obtain ⟨pieces, splits⟩ := Document.exists_split_eq_ok named none
    have bare : "" ∈ ["", "\n"] := List.mem_cons_self
    obtain ⟨reloaded, loads, imports, definitions, -⟩ :=
      Resolver.load_printed prints bare splits name
    rw [String.append_empty] at loads
    exact ⟨reloaded, loads, imports, definitions⟩

namespace Sample

/-- A line of the description looks like a directive, and the imported fragment has the name of a
local one. -/
def misleading : LoadCall :=
  .load (.table [("f", "fragment F on T { y }")]) ⟨.empty, []⟩
    ("#import f\n\"\"\"\nsee\n#import g\n\"\"\"\n"
      ++ "query A { ...F } query B { x } fragment F on T { x }") none

def describedA : Definition :=
  .operation ⟨some ⟨"see\n#import g", true⟩, .query, some "A", [], [], [spread "F"]⟩

def misleadingPart : Document := ⟨Document.defaultSource, [describedA, fragment "F" [field "x"]]⟩

def misleadingWhole : Loaded where
  source := Document.defaultSource
  document := ⟨Document.defaultSource,
    [describedA, query "B" [field "x"], fragment "F" [field "x"], fragment "F" [field "y"]]⟩
  operations := [("A", misleadingPart), ("B", ⟨Document.defaultSource, [query "B" [field "x"]]⟩)]
  imports := ["f"]

theorem reprints_misleadingWhole : misleadingWhole.document.Reprints := by
  have printed : misleadingWhole.document.print =
      "\"\"\"\nsee\n#import g\n\"\"\"\nquery A \x7b\n  ...F\n\x7d\n\nquery B \x7b\n  x\n\x7d\n\n"
        ++ "fragment F on T \x7b\n  x\n\x7d\n\nfragment F on T \x7b\n  y\n\x7d" := by cbv
  exact Document.Reprints.of_parse printed (by cbv) (by cbv) ⟨'"', by cbv, by decide⟩

theorem reprints_misleadingPart : misleadingPart.Reprints := by
  have printed : misleadingPart.print =
      "\"\"\"\nsee\n#import g\n\"\"\"\nquery A \x7b\n  ...F\n\x7d\n\nfragment F on T \x7b\n  x\n\x7d" := by
    cbv
  exact Document.Reprints.of_parse printed (by cbv) (by cbv) ⟨'"', by cbv, by decide⟩

end Sample

set_option maxRecDepth 1000 in
theorem LoadCall.reloads_printed_misleading :
    (Sample.misleading.run []).Returns Sample.misleadingWhole ∧
      Sample.misleadingWhole.document.Parsed ∧ Sample.misleadingWhole.document.Reprints ∧
      (∃ reloaded, (∀ resolve : Resolver, (resolve.load
          (Sample.misleadingWhole.document.print ++ "\n") (some "again")).Returns reloaded) ∧
        reloaded.imports = [] ∧
        reloaded.document.definitions = Sample.misleadingWhole.document.definitions ∧
        Document.contents reloaded.operations =
          Document.contents Sample.misleadingWhole.operations) ∧
      ∃ reloaded, (∀ resolve : Resolver,
          (resolve.load Sample.misleadingPart.print none).Returns reloaded) ∧
        reloaded.imports = [] ∧
        reloaded.document.definitions = Sample.misleadingPart.definitions := by
  have whole : (Sample.misleading.run []).Returns Sample.misleadingWhole := by cbv
  obtain ⟨parsed, document, parts⟩ :=
    LoadCall.reloads_printed Sample.misleading Sample.misleadingWhole whole
  have made := parsed fun _ _ _ other => by cases other
  obtain ⟨reloaded, loads, again⟩ := document Sample.reprints_misleadingWhole (some "again")
  have stored : ("A", Sample.misleadingPart) ∈ Sample.misleadingWhole.operations :=
    List.mem_cons_self
  obtain ⟨reloaded', loads', again'⟩ := parts _ stored Sample.reprints_misleadingPart none
  exact ⟨whole, made.1, Sample.reprints_misleadingWhole,
    ⟨reloaded, fun resolve => (loads resolve).1, again⟩,
    reloaded', fun resolve => (loads' resolve).1, again'⟩

end OperationDocuments
