import Palimpsest.Proofs.Expansion.Runs

/-!
# Stored entries and fresh ones

For an expander that looks at its request only, an entry should not depend on when it was made. It
may depend on the switches and the providers of the store, which are the same for all its entries,
and on the content that the version of the file stands for.

1. `freshEntry`: the entry that a store without entries builds.
2. `Store.Faithful`: every entry of a store is the fresh one for a content that its version has
   been seen with.
3. `Store.Faithful.fetched`: fetching leaves a faithful store.
4. `Store.Faithful.fresh`: while each version of a file has been seen with one content only,
   fetching gives fresh entries.
-/

namespace Palimpsest.Expansion

/-- The entry that a store without entries builds. -/
def freshEntry (expander : Request → Expander.Reply) (providers : Provider.Resolver)
    (options : Expander.Options) (file : Url) (content : String) (version : Version) : Entry :=
  (fetch (Invoke.ofFunction expander) file content version (Store.create providers options)).1

/-- What a fetch with an expander that looks at its request only gives and leaves. -/
structure Store.Fetched (expander : Request → Expander.Reply) (s : Store) (file : Url)
    (content : String) (version : Version) (entry : Entry) (t : Store) : Prop where
  /-- The entry was there, or it is built of the request. -/
  source : s.peek file = some entry ∧ entry.version = version ∨
    entry =
      if Text.isBlankText content then .passThrough content version .skipped
      else .ofReply content version (expander (s.request file content))
  peek : ∀ other, t.peek other = if other = file then some entry else s.peek other
  providers : t.providers = s.providers
  options : t.options = s.options
  running : t.running = s.running

/-- Nobody else is at work on the file, so the fetch does not end early. -/
theorem fetched (expander : Request → Expander.Reply) {s : Store} {file : Url}
    (hidle : file ∉ s.running) (content : String) (version : Version) :
    s.Fetched expander file content version
      (fetch (Invoke.ofFunction expander) file content version s).1
      (fetch (Invoke.ofFunction expander) file content version s).2 := by
  have hbegun := s.begun file content version
  obtain ⟨entry, t, hbegin, hfetch⟩ | ⟨reply, t, hbegin, hcall, hfetch⟩ :=
    fetch_cases (Invoke.ofFunction expander) file content version s
  · have hsame := Store.sameCalls_of_ready hbegin
    rw [hbegin] at hbegun
    rw [hfetch]
    refine ⟨?_, ?_, hsame.providers, hsame.options, hsame.running⟩
    · cases hbegun with
      | hit _ hentry hversion => exact Or.inl ⟨hentry, hversion⟩
      | blank _ hblank => exact Or.inr (by rw [if_pos hblank])
      | reentered _ _ hrunning => exact absurd hrunning hidle
    · intro other
      cases hbegun with
      | hit _ hentry _ =>
        -- The entry was in the store already, so the lookup is the same with it put there again.
        by_cases hother : other = file
        · rw [if_pos hother, hother]
          exact hentry
        · rw [if_neg hother]
          rfl
      | blank _ _ => exact Store.peek_publish s file _ other
      | reentered _ _ hrunning => exact absurd hrunning hidle
  · obtain ⟨rfl, rfl⟩ : expander (s.request file content) = reply ∧ s.opened file version = t := by
      simpa [Invoke.ofFunction] using hcall
    rw [hbegin] at hbegun
    rw [hfetch]
    refine ⟨?_, ?_, ?_, ?_, ?_⟩
    · cases hbegun with
      | call _ hblank _ => exact Or.inr (by simp [hblank])
    · intro other
      exact Store.peek_closed _ file content version _ other
    · exact Store.providers_closed ..
    · exact Store.options_closed ..
    · show ((s.opened file version).closed file content version _).running = s.running
      rw [Store.running_closed]
      show (file :: s.running).erase file = s.running
      rw [List.erase_cons_head]

/-- **What a fresh entry is**: a blank content is skipped, any other goes to the expander. -/
theorem freshEntry_eq (expander : Request → Expander.Reply) (providers : Provider.Resolver)
    (options : Expander.Options) (file : Url) (content : String) (version : Version) :
    freshEntry expander providers options file content version =
      if Text.isBlankText content then .passThrough content version .skipped
      else .ofReply content version (expander ⟨content, file, options, providers⟩) := by
  have hidle : file ∉ (Store.create providers options).running := List.not_mem_nil
  rcases (fetched expander hidle content version).source with ⟨hentry, -⟩ | hentry
  · cases hentry
  · exact hentry

theorem version_ofReply (content : String) (version : Version) (reply : Expander.Reply) :
    (Entry.ofReply content version reply).version = version := by
  cases reply with
  | failed text => rfl
  | crashed text => rfl
  | output output =>
    cases hlayout : Mapping.Mapper.ofLayout? output.layout with
    | error fault =>
      simp only [Entry.ofReply, judge, hlayout]
      rfl
    | ok mapper => simp only [Entry.ofReply, judge, hlayout]

theorem Store.Fetched.version {expander : Request → Expander.Reply} {s t : Store} {file : Url}
    {content : String} {version : Version} {entry : Entry}
    (h : s.Fetched expander file content version entry t) : entry.version = version := by
  rcases h.source with ⟨-, hversion⟩ | hbuilt
  · exact hversion
  · rw [hbuilt]
    split
    · rfl
    · exact version_ofReply content version _

namespace Store

variable {expander : Request → Expander.Reply} {seen : Url → Version → String → Prop}

/-- Every entry is the fresh one for a content with which its version has been seen. -/
def Faithful (expander : Request → Expander.Reply) (seen : Url → Version → String → Prop)
    (s : Store) : Prop :=
  ∀ file entry, s.peek file = some entry → ∃ content,
    seen file entry.version content ∧
      entry = freshEntry expander s.providers s.options file content entry.version

theorem faithful_of_peek_eq_none {s : Store} (h : ∀ file, s.peek file = none) :
    s.Faithful expander seen := by
  intro file entry hentry
  rw [h] at hentry
  cases hentry

theorem Faithful.remove {s : Store} (h : s.Faithful expander seen) (file : Url) :
    (s.remove file).Faithful expander seen := by
  intro other entry hentry
  rw [peek_remove] at hentry
  rw [(sameCalls_remove s file).providers, (sameCalls_remove s file).options]
  split at hentry
  · cases hentry
  · exact h other entry hentry

theorem Faithful.setOptions {s : Store} (h : s.Faithful expander seen)
    (options : Expander.Options) : (s.setOptions options).Faithful expander seen := by
  rcases s.setOptions_cases options with ⟨-, heq⟩ | ⟨-, heq⟩
  · rw [heq]
    exact h
  · rw [heq]
    apply faithful_of_peek_eq_none
    intro file
    rw [peek_note, peek_clear]

theorem Faithful.fetched {s t : Store} {file : Url} {content : String} {version : Version}
    {entry : Entry} (h : s.Faithful expander seen) (hseen : seen file version content)
    (hfetched : s.Fetched expander file content version entry t) : t.Faithful expander seen := by
  have hbuilt : ∃ old, seen file version old ∧
      entry = freshEntry expander s.providers s.options file old version := by
    rcases hfetched.source with ⟨hstored, hversion⟩ | hbuilt
    · obtain ⟨old, hold, heq⟩ := h file entry hstored
      rw [hversion] at hold heq
      exact ⟨old, hold, heq⟩
    · exact ⟨content, hseen, by rw [hbuilt, freshEntry_eq]; rfl⟩
  intro other stored hstored
  rw [hfetched.providers, hfetched.options]
  rw [hfetched.peek] at hstored
  split at hstored
  · rename_i hother
    obtain rfl : entry = stored := Option.some.inj hstored
    rw [hother, hfetched.version]
    exact hbuilt
  · exact h other stored hstored

/-- Where the version has been seen with this content and no other, the entry is the fresh one. -/
theorem Faithful.fresh {s t : Store} {file : Url} {content : String} {version : Version}
    {entry : Entry} (h : s.Faithful expander seen)
    (hunique : ∀ other, seen file version other → other = content)
    (hfetched : s.Fetched expander file content version entry t) :
    entry = freshEntry expander s.providers s.options file content version := by
  rcases hfetched.source with ⟨hstored, hversion⟩ | hbuilt
  · -- The entry was made of a content seen with this version, and there is only one.
    obtain ⟨old, hold, heq⟩ := h file entry hstored
    rw [hversion] at hold heq
    rw [heq, hunique old hold]
  · rw [hbuilt, freshEntry_eq]
    rfl

end Store

end Palimpsest.Expansion
