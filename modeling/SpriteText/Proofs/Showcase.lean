import SpriteText.Proofs.Asset.Encoded
import SpriteText.Proofs.Files.Trees
import SpriteText.Proofs.Sheet.Compile
import SpriteText.Proofs.Text.Newlines
import SpriteText.Showcase

/-!
# What a showcase shows

A showcase that comes to its end has stored the sprites of its sheet, and reads every one of them
back as it was written: none of its comparisons fails.
-/

namespace SpriteText.Showcase

open Files (Tree Path)

variable {tree : Tree} {directory path : Path} {sprites : SpriteSet} {printed text : String}

/-- What a showcase prints of an asset that holds its sprites. -/
def comparisons (sprites : List (String × Sprite)) : String :=
  String.join (sprites.map fun entry => comparison entry.1 entry.2 (some entry.2))

/-- Sprites that are held by an asset compare well, one after the other. -/
theorem compareAll_of_holds {reader : Asset.Reader} (holds : reader.Holds sprites)
    {entries : List (String × Sprite)} (held : ∀ entry ∈ entries, entry ∈ sprites.entries) :
    compareAll reader sprites printed (entries.map Prod.fst) =
      (printed ++ comparisons entries, none) := by
  induction entries generalizing printed with
  | nil => simp [compareAll, comparisons]
  | cons entry entries ih =>
    obtain ⟨name, sprite⟩ := entry
    have member := held _ List.mem_cons_self
    have found : sprites.get? name = some sprite := NameTable.get?_of_mem member
    have line : comparisons ((name, sprite) :: entries) =
        comparison name sprite (some sprite) ++ comparisons entries := by
      rw [comparisons, List.map_cons, String.join_cons]
      rfl
    rw [List.map_cons, compareAll, holds.get? member]
    simp only [found]
    rw [ih fun entry later => held entry (List.mem_cons_of_mem _ later), line,
      String.append_assoc]

/-- Reading back leaves the files as they are. -/
theorem tree_readBack (tree : Tree) (path : Path) (sprites : SpriteSet) (printed : String) :
    (readBack tree path sprites printed).tree = tree := by
  unfold readBack
  repeat' split
  all_goals rfl

/-- What is read back from the asset of a set is the set. -/
theorem readBack_of_encode {bytes : List UInt8} (encoded : Asset.encode sprites.entries = .ok bytes)
    (endings : ∀ name ∈ sprites.names, name.toList.getLast? ≠ some '\x00')
    (found : tree.read path = .ok bytes) :
    readBack tree path sprites printed =
      { sprites := .ok sprites, output := printed ++ comparisons sprites.entries, tree } := by
  have storable := Asset.storable_of_encode encoded endings
  obtain ⟨reader, opened, holds, -⟩ := Asset.open?_of_storable storable
  cases encoded.symm.trans (Asset.encode_of_storable storable)
  have compared : compareAll reader sprites printed reader.names =
      (printed ++ comparisons sprites.entries, none) := by
    rw [holds.names]
    exact compareAll_of_holds holds fun _ member => member
  simp only [readBack, found, opened, compared]

/-- Sprites that are stored are read back, if their path is a plain file. -/
theorem readBack_of_store {set : SpriteSet}
    (endings : ∀ name ∈ sprites.names, name.toList.getLast? ≠ some '\x00')
    (done : (store tree directory sprites printed).sprites = .ok set)
    (readable : (store tree directory sprites printed).tree.IsReadable
      (directory.child "sprites.bin")) :
    ∃ bytes, Asset.encode sprites.entries = .ok bytes ∧
      (store tree directory sprites printed).tree.read (directory.child "sprites.bin") =
        .ok bytes ∧
      (store tree directory sprites printed).sprites = .ok sprites ∧
      (store tree directory sprites printed).output = printed ++
        Command.createdLine (directory.child "sprites.bin") bytes.length ++
        comparisons sprites.entries := by
  simp only [store] at done readable ⊢
  generalize tree.makeDirectories directory = around at done readable ⊢
  obtain ⟨made, failed⟩ := around
  cases failed with
  | some fault => cases done
  | none =>
    cases encoded : Asset.encode sprites.entries with
    | error fault => simp [encoded] at done
    | ok bytes =>
      cases put : made.write (directory.child "sprites.bin") bytes with
      | error fault => simp [encoded, put] at done
      | ok written =>
        simp only [encoded, put, tree_readBack] at readable ⊢
        have found := Tree.read_written put readable
        rw [readBack_of_encode encoded endings found]
        exact ⟨bytes, rfl, found, rfl, rfl⟩

/-- No name of a compiled sheet ends in the character that fills names up. -/
theorem endings_of_compile {defaultName : Option String} {alignTail : Bool}
    (compiled : Sheet.compile text defaultName alignTail = .ok sprites) :
    ∀ name ∈ sprites.names, name.toList.getLast? ≠ some '\x00' := by
  intro name member
  unfold Sheet.compile at compiled
  split at compiled
  · next sources parsed =>
    have all := (Sheet.compileSources_eq_ok_iff (Sheet.distinct_of_parse parsed)).mp compiled
    rw [NameTable.names, Sheet.names_of_compiles all] at member
    obtain ⟨source, among, rfl⟩ := List.mem_map.mp member
    exact Sheet.getLast?_ne_of_isSpriteName (Sheet.isSpriteName_of_parse parsed source among)
  · cases compiled

/-- A showcase that comes to its end has stored the asset of the sprites of its sheet, if its path
is a plain file, and has printed them, the size of the asset, and that each is read back as it was
written. -/
theorem run_reads_back (done : (run tree directory text).sprites = .ok sprites)
    (readable : (run tree directory text).tree.IsReadable (directory.child "sprites.bin")) :
    ∃ plain bytes, Text.PlainEnds text.toList plain ∧
      Sheet.compile (String.ofList plain) none false = .ok sprites ∧
      Asset.encode sprites.entries = .ok bytes ∧
      (run tree directory text).tree.read (directory.child "sprites.bin") = .ok bytes ∧
      (run tree directory text).output = String.join (Command.preview sprites) ++
        Command.createdLine (directory.child "sprites.bin") bytes.length ++
        comparisons sprites.entries := by
  simp only [run] at done readable ⊢
  split at done
  · cases done
  · next set compiled =>
    simp only [compiled] at readable ⊢
    obtain ⟨bytes, encoded, found, same, output⟩ :=
      readBack_of_store (endings_of_compile compiled) done readable
    cases same.symm.trans done
    exact ⟨_, bytes, Text.plainEnds_iff.mpr rfl, compiled, encoded, found, output⟩

end SpriteText.Showcase
