import SpriteText.Command.Run
import SpriteText.Proofs.Asset.Encoded

/-!
# What an asset cannot hold

The writer refuses a set for its first sprite that exceeds a limit of the layout. A limit that the
writer looks at beforehand, on the number of sprites and on a name, gives a fault that a run
reports. A side or a position that its field cannot hold gives a fault that a run does not handle.
-/

namespace SpriteText

namespace Asset

variable {name : String} {sprite : Sprite} {offset : Nat} {sprites : List (String × Sprite)}
  {sections : Sections} {fault : WriteFault}

/-! ## One sprite -/

/-- The first limit that a sprite exceeds behind so many data bytes, by the fault that it gives. -/
inductive Exceeds (name : String) (sprite : Sprite) (offset : Nat) : WriteFault → Prop
  /-- The name takes more than sixteen bytes. -/
  | name (long : nameSize < (Utf8.encode name).length) :
    Exceeds name sprite offset (.longName name)
  /-- The width takes more than two bytes. -/
  | width (few : (Utf8.encode name).length ≤ nameSize) (wide : 0xFFFF < sprite.width) :
    Exceeds name sprite offset (.side sprite.width)
  /-- The height takes more than two bytes. -/
  | height (few : (Utf8.encode name).length ≤ nameSize) (narrow : sprite.width ≤ 0xFFFF)
      (high : 0xFFFF < sprite.height) :
    Exceeds name sprite offset (.side sprite.height)
  /-- The position takes more than four bytes. -/
  | offset (few : (Utf8.encode name).length ≤ nameSize) (narrow : sprite.width ≤ 0xFFFF)
      (low : sprite.height ≤ 0xFFFF) (far : 0xFFFFFFFF < offset) :
    Exceeds name sprite offset (.offset offset)

/-- Of the limits on one sprite, the one on its name is looked at beforehand. -/
theorem Exceeds.isOverflow_iff (exceeds : Exceeds name sprite offset fault) :
    fault.isOverflow = true ↔ (Utf8.encode name).length ≤ nameSize := by
  cases exceeds with
  | name long => simpa [WriteFault.isOverflow] using long
  | width few => simpa [WriteFault.isOverflow] using few
  | height few => simpa [WriteFault.isOverflow] using few
  | offset few => simpa [WriteFault.isOverflow] using few

/-- A sprite is added if it is within the limits, and refused for the first that it exceeds. -/
theorem add_outcome (sections : Sections) (name : String) (sprite : Sprite) :
    (∃ next, sections.add name sprite = .ok next) ∨
      ∃ fault, sections.add name sprite = .error fault ∧
        Exceeds name sprite sections.data.size fault := by
  by_cases long : nameSize < (Utf8.encode name).length
  · exact .inr ⟨.longName name, by rw [Sections.add, if_pos long], .name long⟩
  have few := Nat.not_lt.mp long
  by_cases wide : 0xFFFF < sprite.width
  · exact .inr ⟨.side sprite.width, by rw [Sections.add, if_neg long, if_pos wide],
      .width few wide⟩
  have narrow := Nat.not_lt.mp wide
  by_cases high : 0xFFFF < sprite.height
  · exact .inr ⟨.side sprite.height, by rw [Sections.add, if_neg long, if_neg wide, if_pos high],
      .height few narrow high⟩
  have low := Nat.not_lt.mp high
  by_cases far : 0xFFFFFFFF < sections.data.size
  · exact .inr ⟨.offset sections.data.size,
      by rw [Sections.add, if_neg long, if_neg wide, if_neg high, if_pos far],
      .offset few narrow low far⟩
  · exact .inl ⟨_, by rw [Sections.add, if_neg long, if_neg wide, if_neg high, if_neg far]⟩

/-! ## Sprites in order -/

/-- Every one of some sprites is within the limits behind the data of those before it, the first
behind so many bytes. -/
def AllWithin (offset : Nat) (sprites : List (String × Sprite)) : Prop :=
  ∀ front name sprite back, sprites = front ++ (name, sprite) :: back →
    WithinLimits name sprite (offset + (dataOf front).length)

/-- No sprites are within the limits. -/
theorem allWithin_nil (offset : Nat) : AllWithin offset [] := by
  intro front name sprite back split
  cases front <;> contradiction

/-- Sprites are within the limits if the first is, and the others are behind its data. -/
theorem AllWithin.cons (first : WithinLimits name sprite offset)
    (others : AllWithin (offset + sprite.byteCount) sprites) :
    AllWithin offset ((name, sprite) :: sprites) := by
  intro front other found back split
  cases front with
  | nil =>
    cases split
    exact first
  | cons entry front =>
    cases split
    have within := others front other found back rfl
    rwa [length_dataOf_cons, ← Nat.add_assoc]

/-- The first of some sprites that exceeds a limit has this name and gives this fault. -/
def FirstExcess (offset : Nat) (sprites : List (String × Sprite)) (name : String)
    (fault : WriteFault) : Prop :=
  ∃ front sprite back, sprites = front ++ (name, sprite) :: back ∧
    AllWithin offset front ∧ Exceeds name sprite (offset + (dataOf front).length) fault

/-- Sprites are all added, or refused for the first that exceeds a limit. -/
theorem addAll_outcome (sections : Sections) (sprites : List (String × Sprite)) :
    (∃ filled, sections.addAll sprites = .ok filled) ∨
      ∃ name fault, sections.addAll sprites = .error fault ∧
        FirstExcess sections.data.size sprites name fault := by
  induction sprites generalizing sections with
  | nil => exact .inl ⟨sections, rfl⟩
  | cons entry sprites ih =>
    obtain ⟨name, sprite⟩ := entry
    rw [Sections.addAll]
    rcases add_outcome sections name sprite with ⟨next, added⟩ | ⟨fault, refused, exceeds⟩
    · rw [added]
      obtain ⟨within, size⟩ := limits_of_add added
      rcases ih next with done | ⟨other, fault, refused, front, found, back, split, before, exceeds⟩
      · exact .inl done
      · rw [size] at before exceeds
        refine .inr ⟨other, fault, refused, (name, sprite) :: front, found, back, ?_, ?_, ?_⟩
        · rw [split, List.cons_append]
        · exact before.cons within
        · rwa [length_dataOf_cons, ← Nat.add_assoc]
    · rw [refused]
      exact .inr ⟨name, fault, rfl, [], sprite, sprites, rfl, allWithin_nil _, exceeds⟩

/-! ## Whole sets -/

/-- What comes of writing sprites as an asset. -/
inductive Judged (sprites : List (String × Sprite)) : Except WriteFault (List UInt8) → Prop
  /-- They can be counted in two bytes, and all are within the limits. -/
  | written (few : sprites.length ≤ 0xFFFF) (within : AllWithin 0 sprites)
      (bytes : List UInt8) : Judged sprites (.ok bytes)
  /-- They cannot be counted in two bytes. -/
  | tooMany (many : 0xFFFF < sprites.length) : Judged sprites (.error .tooMany)
  /-- They can be counted, and one of them is the first that exceeds a limit. -/
  | refused {name : String} {fault : WriteFault} (few : sprites.length ≤ 0xFFFF)
      (first : FirstExcess 0 sprites name fault) : Judged sprites (.error fault)

/-- One of these comes of writing sprites. -/
theorem judged_encode (sprites : List (String × Sprite)) : Judged sprites (encode sprites) := by
  by_cases many : 0xFFFF < sprites.length
  · rw [encode, if_pos many]
    exact .tooMany many
  · have few := Nat.not_lt.mp many
    rw [encode, if_neg many]
    rcases addAll_outcome {} sprites with ⟨filled, added⟩ | ⟨name, fault, refused, first⟩
    · rw [added]
      refine .written few (fun front name sprite back split => ?_) _
      rw [split] at added
      exact limits_of_addAll added
    · rw [refused]
      exact .refused few first

/-- A set is refused with a fault that is no overflow if it has too many sprites, or if the first
sprite that exceeds a limit does so by its name. -/
theorem isOverflow_eq_false_iff {set : SpriteSet} (refused : encode set.entries = .error fault) :
    fault.isOverflow = false ↔ 0xFFFF < set.size ∨
      ∃ name, nameSize < (Utf8.encode name).length ∧ FirstExcess 0 set.entries name fault := by
  have judged := judged_encode set.entries
  rw [refused] at judged
  cases judged with
  | tooMany many => simp [WriteFault.isOverflow, NameTable.size, many]
  | refused few first =>
    have short : ¬0xFFFF < set.size := Nat.not_lt.mpr few
    constructor
    · intro handled
      obtain ⟨front, sprite, back, split, before, exceeds⟩ := first
      have long := mt exceeds.isOverflow_iff.mpr (by simp [handled])
      exact .inr ⟨_, Nat.not_le.mp long, front, sprite, back, split, before, exceeds⟩
    · rintro (many | ⟨name, long, front, sprite, back, split, before, exceeds⟩)
      · exact absurd many short
      · have overflows := mt exceeds.isOverflow_iff.mp (Nat.not_le.mpr long)
        simpa using overflows

end Asset

namespace Command

open Files (Tree Path)

variable {host : Host} {tree made : Tree} {request : Request} {printed : String} {path : Path}
  {suffix : Option String} {set : SpriteSet} {fault : Asset.WriteFault}

/-! ## Runs -/

/-- How a run ends that cannot write its sprites as an asset, behind what has been printed. -/
inductive EndsRefused (host : Host) (printed : String) (made : Tree) (path : Path)
    (fault : Asset.WriteFault) : Outcome → Prop
  /-- It reports the fault. -/
  | reported (handled : fault.isOverflow = false) {output : String}
    (warned : host.print printed (Format.ofPath path).warning = (output, none)) :
    EndsRefused host printed made path fault {
      exit := .status 1, output, tree := made
      errors := "Error: " ++ path.spelling ++ ": " ++ fault.message ++ "\n" }
  /-- It does not handle the fault. -/
  | escaped (overflow : fault.isOverflow = true) {output : String}
    (warned : host.print printed (Format.ofPath path).warning = (output, none)) :
    EndsRefused host printed made path fault {
      exit := .escape (.asset fault), output, tree := made }
  /-- It does not come to the fault: it cannot print the warning, and reports that. -/
  | unwarned {output problem : String}
    (refused : host.print printed (Format.ofPath path).warning = (output, some problem)) :
    EndsRefused host printed made path fault {
      exit := .status 1, output, tree := made
      errors := "Error: " ++ path.spelling ++ ": " ++ problem ++ "\n" }

/-- A run that has made the directories around an asset and cannot write its sprites ends so. -/
theorem endsRefused_finish (format : Format.ofPath path = .asset suffix)
    (around : tree.makeDirectories path.parent = (made, none))
    (refused : Asset.encode set.entries = .error fault) :
    EndsRefused host printed made path fault (finish host tree request printed set path) := by
  have body : content host.imaging path set request.input.name request.scale =
      .error (.asset fault) := by
    simp only [content, format, refused]
  simp only [finish, around, write, body, outputExit]
  cases warned : host.print printed (Format.ofPath path).warning with
  | mk output problem =>
    cases problem with
    | some problem => exact .unwarned warned
    | none =>
      cases overflow : fault.isOverflow with
      | true =>
        simp only [escape?, overflow, if_true]
        exact .escaped overflow warned
      | false =>
        simp only [escape?, overflow, Bool.false_eq_true, if_false]
        exact .reported overflow warned

/-- Writing any set as an asset. It is written exactly if it has at most 65535 sprites and each of
them is within the limits of the layout behind the data of those before it. Otherwise it is refused
for its number of sprites, or for the first sprite that exceeds a limit. A run reports the refusal
and ends with status one if the number of sprites or the name of that sprite is the reason, and does
not handle it if a width, a height or a position is. -/
theorem refusals_of_encode (set : SpriteSet) :
    Asset.Judged set.entries (Asset.encode set.entries) ∧
    ∀ fault, Asset.encode set.entries = .error fault →
      (fault.isOverflow = false ↔ 0xFFFF < set.size ∨
        ∃ name, Asset.nameSize < (Utf8.encode name).length ∧
          Asset.FirstExcess 0 set.entries name fault) ∧
      ∀ host tree made request printed path suffix, Format.ofPath path = .asset suffix →
        tree.makeDirectories path.parent = (made, none) →
        EndsRefused host printed made path fault (finish host tree request printed set path) := by
  refine ⟨Asset.judged_encode set.entries, fun fault refused => ?_⟩
  refine ⟨Asset.isOverflow_eq_false_iff refused, ?_⟩
  intro host tree made request printed path suffix format around
  exact endsRefused_finish format around refused

/-- A sprite with a name of 17 bytes and too many rows, behind one that fits, is refused for its
name, and the run reports that. -/
theorem refusals_of_encode_long_name :
    let dot : Sprite := ⟨1, 1, .one, #[0x80], true, by decide, by decide⟩
    let high : Sprite := ⟨0, 65536, .two, #[], true, by decide, by decide⟩
    let set : SpriteSet := ⟨[("a", dot), ("seventeen_letters", high)], by decide⟩
    Asset.encode set.entries = .error (.longName "seventeen_letters") ∧
    ∀ host request, (finish host {} request "" set (Path.ofString "a.bin")).exit = .status 1 := by
  intro dot high set
  have refused : Asset.encode set.entries = .error (.longName "seventeen_letters") := rfl
  refine ⟨refused, fun host request => ?_⟩
  have format : Format.ofPath (Path.ofString "a.bin") = .asset none := by decide
  have around : Tree.makeDirectories {} (Path.ofString "a.bin").parent = ({}, none) := rfl
  have ends := ((refusals_of_encode set).2 _ refused).2 host {} {} request "" _ _ format around
  generalize finish host {} request "" set (Path.ofString "a.bin") = outcome at ends
  cases ends with
  | reported => rfl
  | escaped overflow => contradiction
  | unwarned => rfl

/-- A sprite of 65536 columns and no rows is refused for its width, and the run does not handle
it. -/
theorem wide_sprite_escapes :
    let wide : Sprite := ⟨65536, 0, .one, #[], true, by decide, by decide⟩
    let set : SpriteSet := ⟨[("a", wide)], by decide⟩
    Asset.encode set.entries = .error (.side 65536) ∧
    ∀ host request, (finish host {} request "" set (Path.ofString "a.bin")).exit =
      .escape (.asset (.side 65536)) := by
  intro wide set
  have refused : Asset.encode set.entries = .error (.side 65536) := rfl
  refine ⟨refused, fun host request => ?_⟩
  have format : Format.ofPath (Path.ofString "a.bin") = .asset none := by decide
  have silent : host.print "" (Format.ofPath (Path.ofString "a.bin")).warning = ("", none) := by
    rw [format]
    rfl
  have around : Tree.makeDirectories {} (Path.ofString "a.bin").parent = ({}, none) := rfl
  have ends := @endsRefused_finish host {} {} request "" _ _ set _ format around refused
  generalize finish host {} request "" set (Path.ofString "a.bin") = outcome at ends
  cases ends with
  | reported handled => contradiction
  | escaped => rfl
  | unwarned unprinted => cases silent.symm.trans unprinted

end Command

end SpriteText
