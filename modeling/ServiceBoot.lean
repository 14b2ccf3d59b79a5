import ServiceBoot.Api.App
import ServiceBoot.Conf.Load
import ServiceBoot.Conf.Resolve
import ServiceBoot.Log.Journal
import ServiceBoot.Main
import ServiceBoot.Proofs.Api.Authorization
import ServiceBoot.Proofs.Api.Verdict
import ServiceBoot.Proofs.Block.Frame
import ServiceBoot.Proofs.Conf.Again
import ServiceBoot.Proofs.Conf.Bootstrap
import ServiceBoot.Proofs.Conf.Frame
import ServiceBoot.Proofs.Conf.Level
import ServiceBoot.Proofs.Conf.Loaded
import ServiceBoot.Proofs.Conf.NormalForm
import ServiceBoot.Proofs.Conf.Omission
import ServiceBoot.Proofs.Conf.Presentation
import ServiceBoot.Proofs.Conf.Report
import ServiceBoot.Proofs.Conf.Requirements
import ServiceBoot.Proofs.Conf.Warnings
import ServiceBoot.Proofs.Log.Lifecycle
import ServiceBoot.Proofs.Log.Loggers
import ServiceBoot.Proofs.Secrets
import ServiceBoot.ServerOptions
import ServiceBoot.Settings
import ServiceBoot.Startup
import ServiceBoot.Proofs.Endpoint
import ServiceBoot.Proofs.Api.Deadline
import ServiceBoot.Proofs.Api.Sharing
import ServiceBoot.Proofs.Startup
