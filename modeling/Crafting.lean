import Crafting.Note.Printer
import Crafting.Inventory.Host
import Crafting.Targeting
import Crafting.Main
import Crafting.Json.Writer
import Crafting.Proofs.Act
import Crafting.Proofs.Assoc
import Crafting.Proofs.Recipe
import Crafting.Proofs.Inventory.Calls
import Crafting.Proofs.Inventory.Party
import Crafting.Proofs.Inventory.Accounts
import Crafting.Proofs.Exchange
import Crafting.Proofs.Settlement
import Crafting.Proofs.EventBus
import Crafting.Proofs.Delivery
import Crafting.Proofs.Verdict
import Crafting.Proofs.Catalog
import Crafting.Proofs.Availability
import Crafting.Proofs.Craft
import Crafting.Proofs.PartyCraft
import Crafting.Proofs.Dealings
import Crafting.Proofs.Mishaps
import Crafting.Proofs.Moves
import Crafting.Proofs.Offer
import Crafting.Proofs.Announcing
import Crafting.Proofs.Text.Lines
import Crafting.Proofs.Text.Numeral
import Crafting.Proofs.Text.Utf8
import Crafting.Proofs.Text.Digits
import Crafting.Proofs.Text.Case
import Crafting.Proofs.Text.Sigma
import Crafting.Proofs.Note.Scan
import Crafting.Proofs.Note.Field
import Crafting.Proofs.Note.Value
import Crafting.Proofs.Note.Block
import Crafting.Proofs.Note.Printer
import Crafting.Proofs.Note.RoundTrip
import Crafting.Proofs.Note.Refusal
import Crafting.Proofs.Note.Returns
import Crafting.Proofs.Note.Place
import Crafting.Proofs.Registry
import Crafting.Proofs.Json
import Crafting.Proofs.Judging
import Crafting.Proofs.Loading
import Crafting.Proofs.Inventory.PartyFile
import Crafting.Proofs.Inventory.Entries
import Crafting.Proofs.Fate
import Crafting.Proofs.Abundance
import Crafting.Proofs.FirstMode
import Crafting.Proofs.Console
import Crafting.Proofs.Commands
import Crafting.Proofs.Numbering
import Crafting.Proofs.Searching
import Crafting.Proofs.Scanning
import Crafting.Proofs.Tables
import Crafting.Proofs.Selection
import Crafting.Proofs.Selection.Refusals
import Crafting.Proofs.Selection.Scrolling
import Crafting.Proofs.Selection.Paging
import Crafting.Proofs.Selection.Opposites
import Crafting.Proofs.Menu.Listening
import Crafting.Proofs.Menu.InStep
import Crafting.Proofs.Menu.Pointing
import Crafting.Proofs.Window
import Crafting.Proofs.FormatCode.Shadowed
import Crafting.Proofs.Help
