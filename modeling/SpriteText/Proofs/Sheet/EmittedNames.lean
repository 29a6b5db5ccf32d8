import SpriteText.Proofs.Constants.Tokens
import SpriteText.Proofs.Sheet.Compile
import SpriteText.Proofs.Sheet.Headings

/-!
# The names of a sheet in constants

The names of a parsed sheet are distinct, and a name on a header is plain, so constants spell it as
one token of a line. Only the name that a sheet without headers is given by default may have a line
feed behind it.
-/

namespace SpriteText.Sheet

/-- The only source of a sheet without headers is given a name that ends in a line feed. -/
structure FeedEnded (text : String) (defaultName : Option String) (source : Source) : Prop where
  /-- There is no header. -/
  no_header : headings text = []
  /-- The name is the default. -/
  given : defaultName = some source.name
  /-- It is an identifier with a line feed behind it. -/
  spelled : ∃ first rest, source.name.toList = first :: rest ++ ['\n'] ∧
    isNameStart first = true ∧ ∀ character ∈ rest, isNamePart character = true

variable {text : String} {defaultName : Option String} {sources : List Source}

/-- Only a name that is given ends in a line feed; the one that stands in for it does not. -/
theorem eq_some_of_soleName (ending : (soleName defaultName).toList.getLast? = some '\n') :
    defaultName = some (soleName defaultName) := by
  have other : "sprite".toList.getLast? ≠ some '\n' := by decide
  cases defaultName with
  | none => exact absurd ending other
  | some name =>
    rw [soleName] at ending ⊢
    split
    · rename_i empty
      rw [if_pos empty] at ending
      exact absurd ending other
    · rfl

/-- The names of a parsed sheet are plain, unless its only name ends in a line feed. -/
theorem plainName_of_parse (done : parse text defaultName = .ok sources) :
    (∀ source ∈ sources, PlainName source.name) ∨
      ∃ source, sources = [source] ∧ FeedEnded text defaultName source := by
  have named := isSpriteName_of_parse done
  by_cases none : headings text = []
  · rw [parse_of_no_header none] at done
    split at done
    · cases done
      rcases isSpriteName_iff.mp (named _ List.mem_cons_self) with plain | feed_ended
      · exact .inl (List.forall_mem_singleton.mpr plain)
      · have ⟨first, rest, spelled, _⟩ := feed_ended
        have ending : (soleName defaultName).toList.getLast? = some '\n' := by
          rw [show (soleName defaultName).toList = _ from spelled]
          exact List.getLast?_concat
        exact .inr ⟨_, rfl, none, eq_some_of_soleName ending, feed_ended⟩
    · contradiction
  · refine .inl fun source member => ?_
    have given : some source.name ∈ (headings text).map Heading.name := by
      rw [map_name_of_parse none done]
      exact List.mem_map_of_mem (f := fun source : Source => some source.name) member
    obtain ⟨⟨number, name⟩, held, rfl⟩ := List.mem_map.mp given
    exact (isSpriteName_iff_of_mem_headings held).mp (named source member)

/-- The names of a compiled sheet are plain, unless its only name is an identifier with a line feed
behind it. -/
theorem plainName_of_compile {alignTail : Bool} {set : SpriteSet}
    (compiled : compile text defaultName alignTail = .ok set) :
    (∀ name ∈ set.names, PlainName name) ∨
      ∃ word sprite, Identifier word ∧ set.entries = [(word ++ "\n", sprite)] := by
  rw [compile] at compiled
  cases done : parse text defaultName with
  | error fault =>
    rw [done] at compiled
    contradiction
  | ok sources =>
    rw [done] at compiled
    have all := (compileSources_eq_ok_iff (distinct_of_parse done)).mp compiled
    refine (plainName_of_parse done).imp (fun plain => ?_) ?_
    · intro name member
      rw [NameTable.names, names_of_compiles all] at member
      obtain ⟨source, held, rfl⟩ := List.mem_map.mp member
      exact plain source held
    · rintro ⟨source, rfl, feed_ended⟩
      obtain ⟨first, rest, spelled, start, parts⟩ := feed_ended.spelled
      cases entries : set.entries with
      | nil =>
        rw [entries] at all
        contradiction
      | cons entry others =>
        rw [entries] at all
        obtain ⟨⟨same, -⟩, none⟩ := List.forall₂_cons.mp all
        cases none
        have word : source.name = String.ofList (first :: rest) ++ "\n" := by
          rw [← String.toList_inj, spelled]
          simp
        refine ⟨String.ofList (first :: rest), entry.2, ⟨⟨first, rest, by simp, start⟩, ?_⟩, ?_⟩
        · rw [String.toList_ofList]
          exact List.forall_mem_cons.mpr ⟨isNamePart_of_isNameStart start, parts⟩
        · rw [← word, ← same]

/-- The names of a parsed sheet are distinct. They are plain, and constants for sprites of these
names spell every name as one token of a line; or the sheet has no header, and the name that it is
given by default is an identifier with a line feed behind it. -/
theorem names_of_parse (done : parse text defaultName = .ok sources) :
    (sources.map Source.name).Nodup ∧
    (((∀ source ∈ sources, PlainName source.name) ∧
        ∀ set : SpriteSet, set.names = sources.map Source.name →
          ∀ sourceName guardName, ∀ entry ∈ set.entries,
            Constants.NameTokens set sourceName guardName entry.1 entry.2) ∨
      ∃ source, sources = [source] ∧ FeedEnded text defaultName source) := by
  refine ⟨distinct_of_parse done, (plainName_of_parse done).imp_left fun plain => ⟨plain, ?_⟩⟩
  intro set names sourceName guardName entry member
  have all_plain : ∀ entry ∈ set.entries, PlainName entry.1 := by
    intro entry held
    have named : entry.1 ∈ sources.map Source.name := by
      rw [← names]
      exact List.mem_map_of_mem held
    obtain ⟨source, there, same⟩ := List.mem_map.mp named
    exact same ▸ plain source there
  exact Constants.nameTokens_of_plain all_plain member sourceName guardName

/-- The name on a header is plain, whatever the default. -/
theorem names_of_parse_with_header :
    parse "@sprite a\n00\n" (some "b\n") = .ok [⟨"a", "\n00\n", 2⟩] ∧ PlainName "a" := by
  have parsed : parse "@sprite a\n00\n" (some "b\n") = .ok [⟨"a", "\n00\n", 2⟩] := rfl
  refine ⟨parsed, ?_⟩
  rcases (names_of_parse parsed).2 with ⟨plain, -⟩ | ⟨source, -, feed_ended⟩
  · exact plain _ List.mem_cons_self
  · exact absurd feed_ended.no_header (by decide)

/-- A default name with a line feed behind it names the only drawing of a sheet, and the module of
its sprite breaks the name off from its value. -/
theorem feed_ended_name_is_broken_off :
    parse "0011\n" (some "a\n") = .ok [⟨"a\n", "\n0011\n", 1⟩] ∧
    ¬PlainName "a\n" ∧
    ∃ set, compile "0011\n" (some "a\n") false = .ok set ∧
      "a".toList ∈ Text.lines (Constants.moduleText set none).toList ∧
      " = Sprite.from_byte_array(".toList ∈ Text.lines (Constants.moduleText set none).toList := by
  refine ⟨rfl, fun plain => ?_, ?_⟩
  · have part := plain.parts '\n' (by decide)
    contradiction
  · have names : (compile "0011\n" (some "a\n") false).map NameTable.names = .ok ["a\n"] := rfl
    cases compiled : compile "0011\n" (some "a\n") false with
    | error fault =>
      rw [compiled] at names
      contradiction
    | ok set =>
      rw [compiled] at names
      obtain ⟨⟨name, sprite⟩, member, rfl⟩ : ∃ entry ∈ set.entries, entry.1 = "a\n" := by
        apply List.mem_map.mp
        rw [show set.entries.map Prod.fst = _ from Except.ok.inj names]
        exact List.mem_cons_self
      have inside : "a\n" ++ " = Sprite.from_byte_array(" ∈ Constants.moduleEntry "a\n" sprite :=
        List.mem_append_left _ (List.mem_append_left _ (.tail _ (.tail _ (.head _))))
      have held := Constants.mem_moduleLines member inside none
      exact ⟨set, rfl, Text.mem_lines_intercalate held (by decide) (by decide),
        Text.mem_lines_intercalate held (by decide) (by decide)⟩

end SpriteText.Sheet
