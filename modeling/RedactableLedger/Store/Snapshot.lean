import RedactableLedger.Store.Basic

namespace RedactableLedger

namespace Layout

def decodeMany (l : Layout α) : Nat → Bytes → Except LayoutFault (List α × Bytes)
  | 0, bytes => .ok ([], bytes)
  | n + 1, bytes => do
    let (a, rest) ← l.decode bytes
    let (as, rest) ← decodeMany l n rest
    return (a :: as, rest)

def list (l : Layout α) : Layout (List α) where
  encode as := (natural 8).encode as.length ++ as.flatMap l.encode
  decode bytes := do
    let (n, rest) ← (natural 8).decode bytes
    decodeMany l n rest

def tree : Layout Tree := (list (sized.pair sized)).map Tree.mk Tree.entries

def store : Layout Store :=
  (tree.pair (tree.pair (tree.pair (tree.pair (tree.pair (tree.pair (tree.pair tree))))))).map
    (fun (accounts, funds, configs, stakes, updates, kinds, headers, last) =>
      ⟨accounts, funds, configs, stakes, updates, kinds, headers, last⟩)
    (fun s => (s.accountCreations, s.fundsTransfers, s.configs, s.stakes, s.updates,
      s.kindIndex, s.blockHeaders, s.lastBlockHeader))

end Layout

end RedactableLedger
