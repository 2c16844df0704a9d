import RecordFill.Files.Tree
import RecordFill.Like.Regex
import RecordFill.Main
import RecordFill.Proofs.Command.Listing
import RecordFill.Proofs.Command.Table
import RecordFill.Proofs.Config.Saving
import RecordFill.Proofs.Like.Readback
import RecordFill.Proofs.Query.Nesting
import RecordFill.Proofs.Rendering.Concatenation
import RecordFill.Proofs.Rendering.IdToken
import RecordFill.Proofs.Rendering.Preparation
import RecordFill.Proofs.Rendering.Reassembly
import RecordFill.Proofs.Rendering.Selection
import RecordFill.Proofs.Rendering.Unresolved
import RecordFill.Proofs.Store.Casing
import RecordFill.Proofs.Store.Join
import RecordFill.Proofs.Store.Loosening
import RecordFill.Proofs.Store.Rearrangement
import RecordFill.Proofs.Store.Saving
import RecordFill.Proofs.Store.Shadowing
import RecordFill.Proofs.Template.Division
import RecordFill.Proofs.Template.Expansion
import RecordFill.Proofs.Text.Saturation
