import Palimpsest.Expansion.Fetch

/-!
# Expanders that fetch

What an expander does during one call, as a finite tree: it may fetch entries, each time going on
in a way that depends on the entry it gets, and ends in a reply. Each fetch carries the work that
the expander does in case it is called for that very fetch, so the tree tells the whole story of
the outermost call, whatever the files and however they call for each other.
-/

namespace Palimpsest.Expansion

/-- The work of an expander during one call. -/
inductive Work where
  | reply (reply : Expander.Reply)
  /-- Fetches an entry and goes on. `inside` is what the expander does if it is called for it. -/
  | fetch (file : Url) (content : String) (version : Version) (inside : Request → Work)
      (next : Entry → Work)

namespace Work

def run : Work → Store → Expander.Reply × Store
  | reply r, s => (r, s)
  | fetch file content version inside next, s =>
    let (entry, s) :=
      Expansion.fetch (fun request s => (inside request).run s) file content version s
    (next entry).run s

end Work

def Invoke.ofWork (work : Request → Work) : Invoke Store := fun request s => (work request).run s

end Palimpsest.Expansion
