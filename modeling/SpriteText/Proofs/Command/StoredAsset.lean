import SpriteText.Proofs.Asset.Encoded
import SpriteText.Proofs.Command.Agreement
import SpriteText.Proofs.Command.Arguments
import SpriteText.Proofs.Command.KeptFiles

/-!
# Assets that a run stores

What a run writes as an asset is what the sheet says: the selected drawings, each compiled by itself
and under its name, in the order of the sheet. Drawings that are not selected change nothing, even
if they cannot be compiled.
-/

namespace SpriteText.Command

open Files (Tree Path)

variable {host : Host} {tree other : Tree} {request : Request} {path : Path}
variable {arguments : List String} {sources others : List Sheet.Source}

/-- A tree holds an asset at a path, and a session on it loads a set. -/
def HoldsAsset (tree : Tree) (path : Path) (set : SpriteSet) : Prop :=
  ∃ bytes session, tree.read path = .ok bytes ∧ Asset.Session.open? bytes = .ok session ∧
    session.loadAll.1 = .ok set

/-- A path whose suffix is of no other format is for an asset. -/
theorem ofPath_asset (other_suffix : Text.lowercase path.suffix ∉ [".py", ".h", ".png"]) :
    ∃ suffix, Format.ofPath path = .asset suffix := by
  simp only [List.mem_cons, List.not_mem_nil, or_false, not_or] at other_suffix
  obtain ⟨no_constants, no_arrays, no_picture⟩ := other_suffix
  simp only [Format.ofPath, if_neg no_constants, if_neg no_arrays, if_neg no_picture]
  split
  · exact ⟨none, rfl⟩
  · exact ⟨_, rfl⟩

/-- The content of an asset is the asset of the sprites. -/
theorem encode_of_content {library : Imaging} {sprites : SpriteSet} {sourceName : String}
    {scale : Int} {made : Content library}
    (other_suffix : Text.lowercase path.suffix ∉ [".py", ".h", ".png"])
    (body : content library path sprites sourceName scale = .ok made) :
    ∃ bytes, Asset.encode sprites.entries = .ok bytes ∧ made = .bytes bytes := by
  obtain ⟨suffix, format⟩ := ofPath_asset other_suffix
  simp only [content, format] at body
  cases encoded : Asset.encode sprites.entries with
  | error fault => simp [encoded] at body
  | ok bytes =>
    simp only [encoded, Except.ok.injEq] at body
    exact ⟨bytes, rfl, body.symm⟩

/-- The selection keeps sources and their order. -/
theorem selected_sublist (request : Request) (sources : List Sheet.Source) :
    (selected request sources).Sublist sources := by
  unfold selected
  split
  · exact List.Sublist.refl sources
  · exact List.filter_sublist

/-- What is written as an asset is loaded again, if it can be read. -/
theorem HoldsOutput.holdsAsset {chosen : List Sheet.Source} {sprites : SpriteSet}
    (holds : HoldsOutput host tree request path chosen sprites)
    (other_suffix : Text.lowercase path.suffix ∉ [".py", ".h", ".png"])
    (named : ∀ name ∈ sprites.names, Sheet.isSpriteName name = true)
    (readable : tree.IsReadable path) : HoldsAsset tree path sprites := by
  obtain ⟨made, content_made, stored⟩ := holds.stored
  obtain ⟨bytes, encoded, rfl⟩ := encode_of_content other_suffix content_made
  obtain ⟨session, opened, loaded⟩ := Asset.session_of_encode encoded fun name member =>
    Sheet.getLast?_ne_of_isSpriteName (named name member)
  exact ⟨bytes, session, stored bytes rfl readable, opened, loaded⟩

/-- A run that ends with status zero stores the selected drawings as an asset. -/
theorem holdsAsset_of_perform (outputs : request.Outputs path)
    (other_suffix : Text.lowercase path.suffix ∉ [".py", ".h", ".png"])
    (done : (perform host tree request).exit = .status 0)
    (readable : (perform host tree request).tree.IsReadable path) :
    ∃ sources set, HoldsSheet tree request sources ∧ set.entries ≠ [] ∧
      List.Forall₂ (Sheet.Compiles request.alignTail) (selected request sources) set.entries ∧
      HoldsAsset (perform host tree request).tree path set := by
  obtain ⟨sources, set, sheet, some_chosen, holds⟩ := holdsOutput_of_perform outputs done
  obtain ⟨bytes, text, read, decoded, parsed⟩ := holdsSheet_iff.mp sheet
  have kept := selected_sublist request sources
  have distinct : ((selected request sources).map Sheet.Source.name).Nodup :=
    (Sheet.distinct_of_parse parsed).sublist (kept.map Sheet.Source.name)
  have all := (Sheet.compileSources_eq_ok_iff distinct).mp holds.compiled
  have names := Sheet.names_of_compiles all
  refine ⟨sources, set, sheet, fun none => ?_, all,
    holds.holdsAsset other_suffix (fun name member => ?_) readable⟩
  · rw [none, List.map_nil, eq_comm, List.map_eq_nil_iff] at names
    exact some_chosen names
  · rw [NameTable.names, names] at member
    obtain ⟨source, chosen, rfl⟩ := List.mem_map.mp member
    exact Sheet.isSpriteName_of_parse parsed source (kept.subset chosen)

/-- A tree holds one sheet for a request. -/
theorem HoldsSheet.unique (holds : HoldsSheet tree request sources)
    (again : HoldsSheet tree request others) : others = sources := by
  obtain ⟨bytes, text, read, decoded, parsed⟩ := holdsSheet_iff.mp holds
  obtain ⟨bytes_too, text_too, read_too, decoded_too, parsed_too⟩ := holdsSheet_iff.mp again
  rw [read] at read_too
  cases read_too
  rw [decoded] at decoded_too
  cases decoded_too
  rw [parsed] at parsed_too
  cases parsed_too
  rfl

/-- Where nothing is closed and no file is special, an output can be read after a run. -/
theorem isReadable_of_run (whole : host.imaging.SavesWhole)
    (accepted : Request.ofArguments arguments = .ok request) (outputs : request.Outputs path)
    (unclosed : tree.closed = fun _ _ => none)
    (ordinary : ∀ location found, tree.node? location ≠ some (.special found)) :
    (run host tree arguments).tree.IsReadable path := by
  have keeps := keepsBut_run whole tree arguments
  refine ⟨fun location found special => ?_, fun location found _ => ?_⟩
  · have ends := (run host tree arguments).tree.ends_locate path
    rw [special] at ends
    have kept := keeps.elsewhere location (by
      rintro ⟨again, accepted_too, path_too, bytes, outputs_too, leads, -⟩
      cases accepted.symm.trans accepted_too
      cases outputs.output.symm.trans outputs_too.output
      cases special.symm.trans leads)
    rw [ends.2] at kept
    generalize same : tree.node? location = node at kept
    cases kept
    exact ordinary location found same
  · rw [keeps.closed, unclosed]

/-- An accepted argument list is carried out as what its options and arguments ask for. A run of it
that writes an asset and ends with status zero stores the drawings of its sheet whose names are
asked for, at least one: where a plain file can be read at the output afterwards, a session on the
asset loads each under its name, as it is compiled by itself, in the order of the sheet. What else
is in the sheet has no influence: on a sheet with the same drawings of these names the run ends
alike, prints the same, leaves the same files and writes the same, and it reports the same if these
drawings stand on the same lines. -/
theorem run_stores_selected (accepted : Request.ofArguments arguments = .ok request) :
    let chosen (sources : List Sheet.Source) : List Sheet.Source :=
      sources.filter fun source => request.Selects source.name
    request.Asks arguments ∧
    (∀ path, request.Outputs path → Text.lowercase path.suffix ∉ [".py", ".h", ".png"] →
      (run host tree arguments).exit = .status 0 →
      (run host tree arguments).tree.IsReadable path →
      ∃ sources set, HoldsSheet tree request sources ∧ set.entries ≠ [] ∧
        List.Forall₂ (Sheet.Compiles request.alignTail) (chosen sources) set.entries ∧
        HoldsAsset (run host tree arguments).tree path set) ∧
    (host.imaging.SavesWhole → ∀ other spot sources others, tree.AgreesBut spot other →
      HoldsSheet tree request sources → HoldsSheet other request others →
      List.Forall₂ Sheet.Source.SameDrawing (chosen sources) (chosen others) →
      Outcome.AgreesBut spot request (chosen sources = chosen others)
        (run host tree arguments) (run host other arguments)) := by
  simp only [run_eq_perform accepted, ← selected_eq_filter]
  refine ⟨asks_of_ofArguments accepted, fun path outputs other_suffix done readable =>
    holdsAsset_of_perform outputs other_suffix done readable,
    fun whole other spot sources others agrees holds holds_too same =>
    agreesBut_perform whole agrees holds holds_too same⟩

/-- The first of two sprites is stored, whether the other can be compiled or not. -/
theorem run_stores_selected_broken_neighbour :
    let host : Host := { imaging := Picture.imaging }
    let sheet (text : String) : Tree := Tree.put {} ["in.txt"] (.file (Utf8.encode text))
    let whole := sheet "@sprite a\n0011\n@sprite b\n22\n"
    let broken := sheet "@sprite a\n0011\n@sprite b\n2\n23"
    let arguments := ["in.txt", "out.bin", "--only", "a"]
    let output := Path.ofString "out.bin"
    (∃ set, set.names = ["a"] ∧ HoldsAsset (run host whole arguments).tree output set) ∧
      (run host broken arguments).exit = .status 0 ∧
      (run host broken arguments).tree.read output =
        (run host whole arguments).tree.read output := by
  intro host sheet whole broken arguments output
  let request : Request := {
    input := .ofString "in.txt"
    output := some output
    name := none
    only := [some "a"]
    alignTail := false
    scale := 1
    preview := false
    previewOnly := false }
  let drawn : Sheet.Source := { name := "a", text := "\n0011\n", firstLine := 2 }
  have accepted : Request.ofArguments arguments = .ok request := by decide +kernel
  have outputs : request.Outputs output := ⟨rfl, rfl⟩
  have holds : HoldsSheet whole request
      [drawn, { name := "b", text := "\n22\n", firstLine := 4 }] :=
    holdsSheet_iff.mpr ⟨Utf8.encode "@sprite a\n0011\n@sprite b\n22\n",
      "@sprite a\n0011\n@sprite b\n22\n", by decide +kernel, by decide +kernel, by decide +kernel⟩
  have holds_too : HoldsSheet broken request
      [drawn, { name := "b", text := "\n2\n23\n", firstLine := 4 }] :=
    holdsSheet_iff.mpr ⟨Utf8.encode "@sprite a\n0011\n@sprite b\n2\n23",
      "@sprite a\n0011\n@sprite b\n2\n23", by decide +kernel, by decide +kernel, by decide +kernel⟩
  have agrees : whole.AgreesBut ["in.txt"] broken :=
    Tree.agreesBut_put {} (List.cons_ne_nil _ _) _ _
  have done : (run host whole arguments).exit = .status 0 := by
    rw [run_eq_perform accepted]
    decide +kernel
  have readable : (run host whole arguments).tree.IsReadable output := by
    refine isReadable_of_run Picture.savesWhole_imaging accepted outputs rfl ?_
    intro location found special
    rw [Tree.node?_put _ (List.cons_ne_nil _ _)] at special
    split at special
    · cases special
    · rw [Tree.node?] at special
      split at special <;> cases special
  obtain ⟨-, stored, alike⟩ := @run_stores_selected host whole request arguments accepted
  obtain ⟨sources, set, sheet_whole, -, all, asset⟩ :=
    stored output outputs (by decide) done readable
  have runs := alike Picture.savesWhole_imaging broken ["in.txt"] _ _ agrees holds holds_too
    (.cons ⟨rfl, rfl⟩ .nil)
  refine ⟨⟨set, ?_, asset⟩, runs.exit.trans done, runs.written output outputs done⟩
  cases holds.unique sheet_whole
  exact Sheet.names_of_compiles all

/-- A special file swallows an asset. The run ends with status zero, and no asset is read there. -/
theorem run_stores_nothing_in_special_file :
    let host : Host := { imaging := Picture.imaging }
    let tree : Tree :=
      ((Tree.put {} ["in.txt"] (.file (Utf8.encode "@sprite a\n0011\n"))).put ["dev"]
        .directory).put ["dev", "null"] (.special [])
    let arguments := ["in.txt", "/dev/null"]
    let output := Path.ofString "/dev/null"
    (∃ request, Request.ofArguments arguments = .ok request ∧ request.Outputs output) ∧
      Text.lowercase output.suffix ∉ [".py", ".h", ".png"] ∧
      (run host tree arguments).exit = .status 0 ∧
      ∀ set, ¬HoldsAsset (run host tree arguments).tree output set := by
  intro host tree arguments output
  refine ⟨⟨_, rfl, rfl, rfl⟩, by decide, by decide +kernel, ?_⟩
  rintro set ⟨bytes, session, read, opened, -⟩
  have nothing : (run host tree arguments).tree.read output = .ok [] := by decide +kernel
  cases nothing.symm.trans read
  have refused : Asset.Session.open? [] = .error .notAnAsset := rfl
  rw [refused] at opened
  cases opened

end SpriteText.Command
