import GameShelf.Main
import GameShelf.Proofs.SortKey
import GameShelf.Proofs.SortKey.Chain
import GameShelf.Proofs.SortKey.Order
import GameShelf.Proofs.Clause.Blocks
import GameShelf.Proofs.Clause.Containment
import GameShelf.Proofs.Clause.Integers
import GameShelf.Proofs.Clause.Leftmost
import GameShelf.Proofs.Clause.Partition
import GameShelf.Proofs.Clause.Printing
import GameShelf.Proofs.Csv
import GameShelf.Proofs.Csv.Quotes
import GameShelf.Proofs.Csv.Writing
import GameShelf.Proofs.Event
import GameShelf.Proofs.Export
import GameShelf.Proofs.Export.Lines
import GameShelf.Proofs.Expression
import GameShelf.Proofs.View.Narrowing
import GameShelf.Proofs.View.History
import GameShelf.Proofs.View.Keeping
import GameShelf.Proofs.View.Picking
import GameShelf.Proofs.View.Repetition
import GameShelf.Proofs.Game
import GameShelf.Proofs.Selection
import GameShelf.Proofs.Selection.Printing
import GameShelf.Proofs.Selection.Resolution
import GameShelf.Proofs.Selection.Tokens
import GameShelf.Proofs.Shortlist.Edits
import GameShelf.Proofs.Shortlist.Names
import GameShelf.Proofs.Shortlist.Positions
import GameShelf.Proofs.Shortlist.Removal
import GameShelf.Proofs.Shortlist.Runs
import GameShelf.Proofs.Catalog.Blocks
import GameShelf.Proofs.Catalog.Columns
import GameShelf.Proofs.Catalog.Lines
import GameShelf.Proofs.Catalog.Names
import GameShelf.Proofs.Command.Additions
import GameShelf.Proofs.Command.Arguments
import GameShelf.Proofs.Command.Numbers
import GameShelf.Proofs.Command.Saving
import GameShelf.Proofs.Files.Tree
import GameShelf.Proofs.Number.Integer
import GameShelf.Proofs.Text.Digits
import GameShelf.Proofs.Text.LowerCase
